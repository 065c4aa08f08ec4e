import Mathlib.Logic.Relation
import Rolebook.Command.Basic
import Rolebook.Proofs.Fallible
import Rolebook.Proofs.Uuid.Spelling

/-!
# The command lines there are

`Asks` is the grammar of command lines: which words ask for which command. The reader accepts just
what the grammar has and makes the same of it (`parse_eq_ok_iff`), and whatever else it gets is
invalid input (`kind_of_parse`).

The flag of `sync` is no part of what the words mean by their places. Putting it in somewhere, or
moving it (`FlagShift`), leaves the other words and their order alone, and nothing but those decides
who is to hold which role.
-/

namespace Rolebook

/-! ## Lists of ids -/

/-- Texts that spell ids, in this order. -/
def Id.Listed {kind : IdKind} (texts : List String) (ids : List (Id kind)) : Prop :=
  List.Forall₂ (fun text id => Id.read text = .ok id) texts ids

/-- A list of ids is read if each of its words is the text of one. -/
theorem Id.mapM_read_eq_ok_iff {kind : IdKind} {texts : List String} {ids : List (Id kind)} :
    texts.mapM Id.read = .ok ids ↔ Id.Listed texts ids :=
  mapM_eq_ok_iff

/-- The texts that ids are written in are read as those ids. -/
theorem Id.listed_texts {kind : IdKind} (ids : List (Id kind)) :
    Id.Listed (ids.map Id.text) ids := by
  unfold Id.Listed
  rw [List.forall₂_map_left_iff, List.forall₂_same]
  exact fun id _ => id.read_text

/-- A word that is no id is refused as invalid. -/
theorem Id.kind_of_read {kind : IdKind} {s : String} {fault : Fault}
    (h : (Id.read s : Except Fault (Id kind)) = .error fault) : fault.kind = .validation := by
  unfold Id.read at h
  split at h
  next => cases h
  next => cases h; rfl

theorem Id.kind_of_mapM_read {kind : IdKind} {texts : List String} {fault : Fault}
    (h : texts.mapM (Id.read : String → Except Fault (Id kind)) = .error fault) :
    fault.kind = .validation := by
  obtain ⟨_, -, hread⟩ := exists_of_mapM_eq_error h
  exact kind_of_read hread

namespace Command

/-! ## The grammar -/

/-- The words of `sync` that are not the flag. -/
def unflagged (words : List String) : List String := words.filter (· ≠ "--dry-run")

/-- Which words ask for which command. -/
inductive Asks : List String → Command → Prop where
  | roles : Asks ["roles"] .roles
  | permissions : Asks ["permissions"] .permissions
  | users : Asks ["users"] .users
  | members {role : String} (named : Text.trim role ≠ "") : Asks ["members", role] (.members role)
  | sync {words texts : List String} {role : String} {users : List UserId} {dryRun : Bool}
      (rest : unflagged words = role :: texts) (named : Text.trim role ≠ "")
      (listed : Id.Listed texts users) (flag : dryRun = true ↔ "--dry-run" ∈ words) :
      Asks ("sync" :: words) (.sync role dryRun users)
  | createRole {name : String} {texts : List String} {permissions : List PermissionId}
      (listed : Id.Listed texts permissions) :
      Asks ("create-role" :: name :: texts) (.createRole name permissions)
  | deleteRole {role : String} (named : Text.trim role ≠ "") :
      Asks ["delete-role", role] (.deleteRole role)

variable {words words' : List String} {c : Command} {fault : Fault}

theorem refersToRole_iff {role : String} : refersToRole role = true ↔ Text.trim role ≠ "" :=
  decide_eq_true_iff

/-! ## The readers of what comes after the name -/

/-- A command without words takes none. -/
theorem readNone_eq_ok_iff {name : String} {command : Command} :
    readNone name command words = .ok c ↔ words = [] ∧ c = command := by
  cases words with
  | nil => exact ⟨fun h => ⟨rfl, (Except.ok.inj h).symm⟩, fun h => congrArg Except.ok h.2.symm⟩
  | cons word rest => exact ⟨nofun, fun h => nomatch h.1⟩

/-- A command that takes a role takes one word, and keeps it as it is. -/
theorem readRole_eq_ok_iff {name : String} {command : String → Command} :
    readRole name command words = .ok c ↔
      ∃ role, words = [role] ∧ Text.trim role ≠ "" ∧ c = command role := by
  unfold readRole
  split
  next role =>
    simp only [← refersToRole_iff]
    split
    next h =>
      constructor
      · intro hc
        exact ⟨role, rfl, h, (Except.ok.inj hc).symm⟩
      · rintro ⟨_, hrole, -, rfl⟩
        cases hrole
        rfl
    next h =>
      refine ⟨nofun, ?_⟩
      rintro ⟨_, hrole, hnamed, -⟩
      cases hrole
      exact absurd hnamed h
  next hne =>
    refine ⟨nofun, ?_⟩
    rintro ⟨role, rfl, -⟩
    exact absurd rfl (hne role)

/-- A name of any kind and the ids of permissions make a new role. -/
theorem readCreateRole_eq_ok_iff :
    readCreateRole words = .ok c ↔ ∃ name texts permissions, words = name :: texts ∧
      Id.Listed texts permissions ∧ c = .createRole name permissions := by
  unfold readCreateRole
  cases words with
  | nil => exact ⟨nofun, fun ⟨_, _, _, h, _⟩ => nomatch h⟩
  | cons name texts =>
    simp only [List.cons.injEq, bind_eq_ok_iff, Id.mapM_read_eq_ok_iff]
    constructor
    · rintro ⟨permissions, hlisted, ⟨⟩⟩
      exact ⟨name, texts, permissions, ⟨rfl, rfl⟩, hlisted, rfl⟩
    · rintro ⟨_, _, permissions, ⟨rfl, rfl⟩, hlisted, rfl⟩
      exact ⟨permissions, hlisted, rfl⟩

/-!
## The words after `sync`

They are read one by one. `SyncWords.Tells` is what holds between two words: the role is the first
word so far that is not the flag, the users are those that the others spell, and the flag has been
seen if it was there. Reading a word keeps it (`SyncWords.Tells.read`), so it holds after the last
word (`SyncWords.Tells.foldlM`), and if the reading stops before, it is at the first word that
should spell an id and does not (`SyncWords.Tells.foldlM_eq_error`). Hence the flag might as well be
taken out first (`readSync_eq_readUnflagged`).
-/

/-- The flag is left out word by word. -/
theorem unflagged_append (words words' : List String) :
    unflagged (words ++ words') = unflagged words ++ unflagged words' :=
  List.filter_append ..

theorem unflagged_flag (words : List String) :
    unflagged ("--dry-run" :: words) = unflagged words := rfl

theorem unflagged_cons {word : String} (hne : word ≠ "--dry-run") (words : List String) :
    unflagged (word :: words) = word :: unflagged words :=
  List.filter_cons_of_pos (decide_eq_true hne)

namespace SyncWords

variable {seen : List String} {word : String} {s s' : SyncWords}

/-- What has been said is just what the words so far say. -/
structure Tells (s : SyncWords) (seen : List String) : Prop where
  role : s.role = (unflagged seen).head?
  listed : Id.Listed (unflagged seen).tail s.users
  flag : s.dryRun = seen.contains "--dry-run"

/-- Before the first word nothing has been said. -/
theorem tells_none : none.Tells [] := ⟨rfl, .nil, rfl⟩

/-- If there is no role yet, no word but the flag has been seen. -/
theorem Tells.unflagged_eq_nil (h : s.Tells seen) (hrole : s.role.isNone) : unflagged seen = [] :=
  List.head?_eq_none_iff.mp (h.role.symm.trans (Option.isNone_iff_eq_none.mp hrole))

/-- When there is a role, there was a word for it. -/
theorem Tells.unflagged_ne_nil (h : s.Tells seen) (hrole : ¬ s.role.isNone) :
    unflagged seen ≠ [] := by
  intro hnil
  rw [h.role, hnil] at hrole
  exact hrole rfl

/-- A word other than the flag does not change whether the flag was there. -/
theorem Tells.flag_append (h : s.Tells seen) (hne : word ≠ "--dry-run") :
    s.dryRun = (seen ++ [word]).contains "--dry-run" := by
  rw [h.flag, Bool.eq_iff_iff, List.contains_iff_mem, List.contains_iff_mem, List.mem_append,
    List.mem_singleton, or_iff_left hne.symm]

/-- One word more is read. -/
theorem Tells.read (h : s.Tells seen) (hread : s.read word = .ok s') :
    s'.Tells (seen ++ [word]) := by
  unfold SyncWords.read at hread
  split at hread
  next hflag =>
    -- the flag says nothing of role and users
    cases hread
    subst hflag
    have hsame : unflagged (seen ++ [dryRunFlag]) = unflagged seen := by
      rw [unflagged_append]
      exact List.append_nil _
    refine ⟨hsame ▸ h.role, hsame ▸ h.listed, ?_⟩
    exact (List.contains_iff_mem.mpr (List.mem_append_right _ (List.mem_singleton_self _))).symm
  next hne =>
    have hword : unflagged (seen ++ [word]) = unflagged seen ++ [word] := by
      rw [unflagged_append, unflagged_cons hne]
      rfl
    split at hread
    next hnone =>
      -- the first word that is not the flag
      cases hread
      have hnil := h.unflagged_eq_nil hnone
      have hlisted := h.listed
      rw [hnil] at hword hlisted
      exact ⟨hword ▸ rfl, hword ▸ hlisted, h.flag_append hne⟩
    next hsome =>
      obtain ⟨user, huser, hpure⟩ := bind_eq_ok_iff.mp hread
      cases hpure
      have hne_nil := h.unflagged_ne_nil hsome
      refine ⟨?_, ?_, h.flag_append hne⟩
      · rw [hword, List.head?_append_of_ne_nil _ hne_nil]
        exact h.role
      · rw [hword, List.tail_append_of_ne_nil hne_nil]
        exact List.rel_append h.listed (.cons huser .nil)

/-- A word that cannot be read should have been an id. -/
theorem Tells.read_eq_error (h : s.Tells seen) (hread : s.read word = .error fault) :
    word ≠ "--dry-run" ∧ unflagged seen ≠ [] ∧
      (Id.read word : Except Fault UserId) = .error fault := by
  unfold SyncWords.read at hread
  split at hread
  next => cases hread
  next hne =>
    split at hread
    next => cases hread
    next hsome =>
      rcases bind_eq_error_iff.mp hread with hid | ⟨_, -, hnever⟩
      · exact ⟨hne, h.unflagged_ne_nil hsome, hid⟩
      · cases hnever

/-- The words that are left are read to the end. -/
theorem Tells.foldlM (h : s.Tells seen) (hread : words.foldlM SyncWords.read s = .ok s') :
    s'.Tells (seen ++ words) := by
  induction words generalizing s seen with
  | nil =>
    cases hread
    rwa [List.append_nil]
  | cons word words ih =>
    rw [List.foldlM_cons] at hread
    obtain ⟨next, hnext, hread⟩ := bind_eq_ok_iff.mp hread
    rw [List.append_cons]
    exact ih (h.read hnext) hread

/-- The reading ends with a fault just as it would if the ids alone were read. -/
theorem Tells.foldlM_eq_error (h : s.Tells seen)
    (hread : words.foldlM SyncWords.read s = .error fault) :
    (unflagged (seen ++ words)).tail.mapM (Id.read : String → Except Fault UserId) =
      .error fault := by
  induction words generalizing s seen with
  | nil => cases hread
  | cons word words ih =>
    rw [List.foldlM_cons] at hread
    rcases bind_eq_error_iff.mp hread with hword | ⟨next, hnext, hread⟩
    · obtain ⟨hne, hne_nil, hid⟩ := h.read_eq_error hword
      have hseen : (unflagged seen).tail.mapM Id.read = .ok s.users :=
        Id.mapM_read_eq_ok_iff.mpr h.listed
      rw [unflagged_append, unflagged_cons hne, List.tail_append_of_ne_nil hne_nil,
        List.mapM_append, hseen, List.mapM_cons, hid]
      rfl
    · rw [List.append_cons]
      exact ih (h.read hnext) hread

end SyncWords

/-- The words after `sync`, read after the flag has been taken out. -/
def readUnflagged (words : List String) : Except Fault Command :=
  match unflagged words with
  | [] => .error .syncRoleExpected
  | role :: texts => do
    let users ← texts.mapM Id.read
    if refersToRole role then return .sync role (words.contains "--dry-run") users
    else throw .syncRoleExpected

/-- Reading word by word comes to the same as taking the flag out first, also where it fails. -/
theorem readSync_eq_readUnflagged (words : List String) : readSync words = readUnflagged words := by
  unfold readSync readUnflagged
  cases hread : words.foldlM SyncWords.read .none with
  | error fault =>
    have hids := SyncWords.tells_none.foldlM_eq_error hread
    rw [List.nil_append] at hids
    cases hwords : unflagged words with
    | nil =>
      rw [hwords] at hids
      cases hids
    | cons role texts =>
      rw [hwords, List.tail_cons] at hids
      dsimp only
      rw [hids]
      rfl
  | ok said =>
    obtain ⟨hrole, hlisted, hflag⟩ := SyncWords.tells_none.foldlM hread
    rw [List.nil_append] at hrole hlisted hflag
    cases hwords : unflagged words with
    | nil =>
      rw [hwords] at hrole
      dsimp only [bind, Except.bind]
      rw [hrole]
      rfl
    | cons role texts =>
      rw [hwords] at hrole hlisted
      have hids : texts.mapM Id.read = .ok said.users := Id.mapM_read_eq_ok_iff.mpr hlisted
      dsimp only [bind, Except.bind]
      rw [hids, hrole, hflag, List.head?_cons, Option.filter_some]
      cases refersToRole role <;> rfl

/-- The words after `sync` are read if, the flag left out, they are a role that is not blank and ids
of users; it is a dry run if the flag was among them. -/
theorem readSync_eq_ok_iff :
    readSync words = .ok c ↔ ∃ role texts users, unflagged words = role :: texts ∧
      Text.trim role ≠ "" ∧ Id.Listed texts users ∧
      c = .sync role (words.contains "--dry-run") users := by
  rw [readSync_eq_readUnflagged, readUnflagged]
  cases unflagged words with
  | nil => exact ⟨nofun, fun ⟨_, _, _, h, _⟩ => nomatch h⟩
  | cons role texts =>
    simp only [List.cons.injEq, bind_eq_ok_iff, Id.mapM_read_eq_ok_iff, ← refersToRole_iff]
    constructor
    · rintro ⟨users, hlisted, h⟩
      split at h
      next hrole =>
        cases h
        exact ⟨role, texts, users, ⟨rfl, rfl⟩, hrole, hlisted, rfl⟩
      next => cases h
    · rintro ⟨_, _, users, ⟨rfl, rfl⟩, hrole, hlisted, rfl⟩
      exact ⟨users, hlisted, if_pos hrole⟩

/-! ## The reader of command lines -/

/-- Reader and grammar agree. -/
theorem parse_eq_ok_iff : parse words = .ok c ↔ Asks words c := by
  constructor
  · intro h
    unfold parse at h
    split at h
    next => cases h
    next name rest =>
      split at h
      next =>
        obtain ⟨rfl, rfl⟩ := readNone_eq_ok_iff.mp h
        exact .roles
      next =>
        obtain ⟨rfl, rfl⟩ := readNone_eq_ok_iff.mp h
        exact .permissions
      next =>
        obtain ⟨rfl, rfl⟩ := readNone_eq_ok_iff.mp h
        exact .users
      next =>
        obtain ⟨role, rfl, hnamed, rfl⟩ := readRole_eq_ok_iff.mp h
        exact .members hnamed
      next =>
        obtain ⟨role, texts, users, hrest, hnamed, hlisted, rfl⟩ := readSync_eq_ok_iff.mp h
        exact .sync hrest hnamed hlisted List.contains_iff_mem
      next =>
        obtain ⟨name, texts, permissions, rfl, hlisted, rfl⟩ := readCreateRole_eq_ok_iff.mp h
        exact .createRole hlisted
      next =>
        obtain ⟨role, rfl, hnamed, rfl⟩ := readRole_eq_ok_iff.mp h
        exact .deleteRole hnamed
      next => cases h
  · intro h
    cases h with
    | roles | permissions | users => rfl
    | members hnamed =>
      unfold parse
      exact readRole_eq_ok_iff.mpr ⟨_, rfl, hnamed, rfl⟩
    | @sync words texts role users dryRun hrest hnamed hlisted hflag =>
      have hdry : dryRun = words.contains "--dry-run" :=
        Bool.eq_iff_iff.mpr (hflag.trans List.contains_iff_mem.symm)
      exact readSync_eq_ok_iff.mpr ⟨role, texts, users, hrest, hnamed, hlisted, hdry ▸ rfl⟩
    | createRole hlisted => exact readCreateRole_eq_ok_iff.mpr ⟨_, _, _, rfl, hlisted, rfl⟩
    | deleteRole hnamed =>
      unfold parse
      exact readRole_eq_ok_iff.mpr ⟨_, rfl, hnamed, rfl⟩

theorem kind_of_readNone {name : String} {command : Command}
    (h : readNone name command words = .error fault) : fault.kind = .validation := by
  cases words with
  | nil => cases h
  | cons => cases h; rfl

theorem kind_of_readRole {name : String} {command : String → Command}
    (h : readRole name command words = .error fault) : fault.kind = .validation := by
  unfold readRole at h
  split at h
  next =>
    split at h
    next => cases h
    next => cases h; rfl
  next => cases h; rfl

/-- Whatever stops the reading of the words after `sync`, they are refused as invalid. -/
theorem kind_of_readSync (h : readSync words = .error fault) : fault.kind = .validation := by
  rw [readSync_eq_readUnflagged, readUnflagged] at h
  split at h
  next => cases h; rfl
  next =>
    rcases bind_eq_error_iff.mp h with hids | ⟨_, -, h⟩
    · exact Id.kind_of_mapM_read hids
    · split at h
      next => cases h
      next => cases h; rfl

theorem kind_of_readCreateRole (h : readCreateRole words = .error fault) :
    fault.kind = .validation := by
  unfold readCreateRole at h
  split at h
  next => cases h; rfl
  next =>
    rcases bind_eq_error_iff.mp h with hids | ⟨_, -, hnever⟩
    · exact Id.kind_of_mapM_read hids
    · cases hnever

/-- What is not a command line is invalid input. -/
theorem kind_of_parse (h : parse words = .error fault) : fault.kind = .validation := by
  unfold parse at h
  split at h
  next => cases h; rfl
  next =>
    split at h
    next => exact kind_of_readNone h
    next => exact kind_of_readNone h
    next => exact kind_of_readNone h
    next => exact kind_of_readRole h
    next => exact kind_of_readSync h
    next => exact kind_of_readCreateRole h
    next => exact kind_of_readRole h
    next => cases h; rfl

/-! ## Where the flag stands -/

/-- The flag is put in somewhere, or moved to another place. -/
inductive FlagShift : List String → List String → Prop where
  | insert (before after : List String) :
      FlagShift (before ++ after) (before ++ "--dry-run" :: after)
  | later (before between after : List String) :
      FlagShift (before ++ "--dry-run" :: (between ++ after))
        (before ++ (between ++ "--dry-run" :: after))
  | earlier (before between after : List String) :
      FlagShift (before ++ (between ++ "--dry-run" :: after))
        (before ++ "--dry-run" :: (between ++ after))

/-- Where the flag is moved, put in or doubled, the other words stay as they are. -/
theorem FlagShift.unflagged_eq (h : FlagShift words words') :
    unflagged words' = unflagged words := by
  cases h <;> simp only [unflagged_append, unflagged_flag]

/-- However often the flag is put in and moved, the other words stay in their order. -/
theorem unflagged_of_shifts (h : Relation.ReflTransGen FlagShift words words') :
    unflagged words' = unflagged words := by
  induction h with
  | refl => rfl
  | tail _ hshift ih => rw [hshift.unflagged_eq, ih]

/-- Who is to hold which role is told by the words that are not the flag. -/
theorem exists_parse_sync_iff {role : String} {users : List UserId} :
    (∃ dryRun, parse ("sync" :: words) = .ok (.sync role dryRun users)) ↔
      ∃ texts, unflagged words = role :: texts ∧ Text.trim role ≠ "" ∧ Id.Listed texts users := by
  have hread : parse ("sync" :: words) = readSync words := rfl
  simp only [hread, readSync_eq_ok_iff]
  constructor
  · rintro ⟨_, _, texts, _, hrest, hnamed, hlisted, ⟨⟩⟩
    exact ⟨texts, hrest, hnamed, hlisted⟩
  · rintro ⟨texts, hrest, hnamed, hlisted⟩
    exact ⟨_, role, texts, users, hrest, hnamed, hlisted, rfl⟩

/-! ## Commands as words -/

/-- The role that a command is about, if it is about one that there is to be already. -/
def role? : Command → Option String
  | .members role | .sync role _ _ | .deleteRole role => some role
  | .roles | .permissions | .users | .createRole _ _ => none

/-- A command line for a command. -/
def line : Command → List String
  | .roles => ["roles"]
  | .permissions => ["permissions"]
  | .users => ["users"]
  | .members role => ["members", role]
  | .sync role dryRun desired =>
    "sync" :: role :: ((if dryRun then ["--dry-run"] else []) ++ desired.map Id.text)
  | .createRole name requested => "create-role" :: name :: requested.map Id.text
  | .deleteRole role => ["delete-role", role]

/-- No id is written like the flag. -/
theorem text_ne_flag (u : UserId) : u.text ≠ "--dry-run" := by
  intro h
  have hread := u.read_text
  rw [h] at hread
  cases hread

/-- No id is written like the flag. -/
theorem unflagged_texts (users : List UserId) :
    unflagged (users.map Id.text) = users.map Id.text := by
  refine List.filter_eq_self.mpr fun text htext => ?_
  obtain ⟨u, -, rfl⟩ := List.mem_map.mp htext
  exact decide_eq_true (text_ne_flag u)

/-- A command can be asked for if the role it names is neither blank nor written like the flag. -/
theorem asks_line (h : ∀ role ∈ c.role?, Text.trim role ≠ "" ∧ role ≠ "--dry-run") :
    Asks c.line c := by
  cases c with
  | roles => exact .roles
  | permissions => exact .permissions
  | users => exact .users
  | members role => exact .members (h role rfl).1
  | sync role dryRun desired =>
    obtain ⟨hnamed, hflag⟩ := h role rfl
    refine .sync ?_ hnamed (Id.listed_texts desired) ?_
    · have hrole : unflagged [role] = [role] := unflagged_cons hflag []
      have hoption : unflagged (if dryRun then ["--dry-run"] else []) = [] := by
        cases dryRun <;> rfl
      rw [← List.singleton_append, unflagged_append, unflagged_append, hrole, hoption,
        unflagged_texts]
      rfl
    · have htexts : "--dry-run" ∉ desired.map Id.text := by
        intro hmem
        obtain ⟨u, -, hu⟩ := List.mem_map.mp hmem
        exact text_ne_flag u hu
      rw [List.mem_cons, List.mem_append, or_iff_right hflag.symm, or_iff_left htexts]
      cases dryRun <;> simp
  | createRole name requested => exact .createRole (Id.listed_texts requested)
  | deleteRole role => exact .deleteRole (h role rfl).1

/-! ## The reader as a whole -/

/-- **Just the command lines of the grammar are accepted.** A list of words is read as a command if
the grammar says that it asks for it, and any other is invalid input. Wherever and however often the
flag of `sync` is put in or moved, the same users are to hold the same role; and each command whose
role is neither blank nor written like the flag can be asked for. -/
theorem parse_exact :
    (∀ words c, parse words = .ok c ↔ Asks words c) ∧
    (∀ words, (¬ ∃ c, Asks words c) ↔
      ∃ fault, parse words = .error fault ∧ fault.kind = .validation) ∧
    (∀ words words', Relation.ReflTransGen FlagShift words words' → ∀ role users,
      (∃ dryRun, parse ("sync" :: words) = .ok (.sync role dryRun users)) ↔
        ∃ dryRun, parse ("sync" :: words') = .ok (.sync role dryRun users)) ∧
    ∀ c : Command, (∀ role, c.role? = some role → Text.trim role ≠ "" ∧ role ≠ "--dry-run") →
      ∃ words, parse words = .ok c := by
  refine ⟨fun _ _ => parse_eq_ok_iff, fun words => ?_, fun words words' h role users => ?_,
    fun c hc => ⟨c.line, parse_eq_ok_iff.mpr (asks_line hc)⟩⟩
  · simp only [← parse_eq_ok_iff]
    cases hparse : parse words with
    | ok c => exact iff_of_false (fun hnone => hnone ⟨c, rfl⟩) fun ⟨_, h, _⟩ => nomatch h
    | error fault =>
      exact iff_of_true (fun ⟨_, h⟩ => nomatch h) ⟨fault, rfl, kind_of_parse hparse⟩
  · simp only [exists_parse_sync_iff, unflagged_of_shifts h]

/-- A user to be an editor. -/
def someone : UserId := ⟨⟨16, by decide⟩⟩

/-- The flag is put in before the role, moved behind it and put in again at the end. -/
theorem parse_exact_shifted :
    let words := ["editors", someone.text]
    let words' := ["editors", "--dry-run", someone.text, "--dry-run"]
    Relation.ReflTransGen FlagShift words words' ∧
    (∃ dryRun, parse ("sync" :: words') = .ok (.sync "editors" dryRun [someone])) ∧
    (∃ fault, parse ["sync", "--dry-run", " "] = .error fault ∧ fault.kind = .validation) ∧
    ∃ words, parse words = .ok (.sync "editors" true [someone]) := by
  intro words words'
  obtain ⟨hreads, hrefuses, hshifted, hall⟩ := parse_exact
  have hfirst : FlagShift words ["--dry-run", "editors", someone.text] :=
    .insert [] ["editors", someone.text]
  have hsecond : FlagShift ["--dry-run", "editors", someone.text]
      ["editors", "--dry-run", someone.text] :=
    .later [] ["editors"] [someone.text]
  have hthird : FlagShift ["editors", "--dry-run", someone.text] words' :=
    .insert ["editors", "--dry-run", someone.text] []
  have hshifts : Relation.ReflTransGen FlagShift words words' :=
    .tail (.tail (.single hfirst) hsecond) hthird
  have hplain : Asks ("sync" :: words) (.sync "editors" false [someone]) :=
    .sync (by decide) (by decide) (Id.listed_texts [someone]) (by decide)
  refine ⟨hshifts, ?_, (hrefuses _).mp ?_, hall _ fun role hrole => ?_⟩
  · exact (hshifted words words' hshifts _ _).mp ⟨false, (hreads _ _).mpr hplain⟩
  · rintro ⟨c, hc⟩
    have hrefused : parse ["sync", "--dry-run", " "] = .error .syncRoleExpected := by decide
    cases hrefused.symm.trans ((hreads _ _).mpr hc)
  · cases hrole
    decide

end Command

end Rolebook
