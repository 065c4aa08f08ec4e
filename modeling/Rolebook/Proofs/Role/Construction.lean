import Rolebook.Proofs.Gateway.Normal
import Rolebook.Proofs.Http.Calls
import Rolebook.Proofs.Store.Calls
import Rolebook.Role.Json

/-!
# How roles are made

A role is made from an input in one way. `Role.MadeFrom` says what it is to be, part by part, and
leaves no choice (`MadeFrom.unique`); making it comes to just that, or fails because the name is
blank (`ofInput_eq_ok_iff`, `ofInput_blank`).

Wherever a role comes from (`Role.Comes`), it was made from an input on the way. Making it again
from its own parts gives the same role.
-/

namespace Rolebook

/-! ## What is kept of texts and lists -/

/-- An optional text trimmed, and absent when nothing is left of it. -/
def trimmed? (o : Option String) : Option String :=
  (o.map Text.trim).filter (· ≠ "")

/-- A text that may be missing is kept trimmed, and a blank one is missing. -/
theorem map_text_ofOption (o : Option String) :
    (NonBlank.ofOption o).map (·.text) = trimmed? o := by
  cases o with
  | none => rfl
  | some t =>
    rw [NonBlank.ofOption_some, trimmed?, Option.map_some, Option.filter_some]
    cases h : NonBlank.ofText? t with
    | none =>
      have hblank := (NonBlank.ofText?_eq_none_iff t).mp h
      simp [hblank]
    | some name =>
      have htext := NonBlank.text_of_ofText? h
      simp [← htext, name.ne_empty]

section FirstSeen

variable {α : Type} [DecidableEq α] {xs ys zs : List α}

/-- What is first seen earlier stands earlier. -/
theorem FirstSeen.pairwise (h : FirstSeen xs ys) :
    ys.Pairwise fun a b => xs.idxOf a < xs.idxOf b := by
  have hplaces : ys.Pairwise fun a b => ys.idxOf a < ys.idxOf b := by
    refine List.pairwise_iff_getElem.mpr fun i j hi hj hij => ?_
    rw [h.nodup.idxOf_getElem, h.nodup.idxOf_getElem]
    exact hij
  refine hplaces.imp_of_mem fun {a b} ha hb hab => ?_
  exact (h.order a ((h.mem_iff a).mp ha) b ((h.mem_iff b).mp hb)).mp hab

/-- What was seen first leaves no choice in its order. -/
theorem FirstSeen.unique (hy : FirstSeen xs ys) (hz : FirstSeen xs zs) : ys = zs := by
  have hperm : ys.Perm zs := (List.perm_ext_iff_of_nodup hy.nodup hz.nodup).mpr fun a =>
    (hy.mem_iff a).trans (hz.mem_iff a).symm
  exact hperm.eq_of_pairwise (fun _ _ _ _ hab hba => absurd hab (Nat.lt_asymm hba)) hy.pairwise
    hz.pairwise

end FirstSeen

namespace Role

/-! ## What a role is to be -/

/-- A role is what an input says it is to be. -/
structure MadeFrom (r : Role) (input : RoleInput) : Prop where
  id : r.id = input.id
  name : r.name.text = Text.trim input.name
  /-- The display name is the name unless there is one of its own. -/
  displayName : r.displayName.text = (trimmed? input.displayName).getD (Text.trim input.name)
  description : r.description.map (·.text) = trimmed? input.description
  isSystem : r.isSystem = input.isSystem
  subsequence : r.permissions.Sublist input.permissions
  /-- The ids of all permissions are there, each once, in the order in which they are first seen. -/
  seen : FirstSeen (input.permissions.map (·.id)) (r.permissions.map (·.id))
  /-- Of the permissions with an id the first one is there. -/
  first : ∀ id, r.permissions.find? (·.id = id) = input.permissions.find? (·.id = id)
  userCount : r.userCount = input.userCount
  createdAt : r.createdAt = input.createdAt
  updatedAt : r.updatedAt = input.updatedAt

variable {r r' : Role} {input : RoleInput}

/-- With a name that is not blank, a role can be made from any input. -/
theorem madeFrom_named {name : NonBlank} (h : name.text = Text.trim input.name) :
    (named name input).MadeFrom input where
  id := rfl
  name := h
  displayName := by
    show ((NonBlank.ofOption input.displayName).getD name).text = _
    rw [← map_text_ofOption, ← h, Option.getD_map]
  description := map_text_ofOption input.description
  isSystem := rfl
  subsequence := sublist_keepFirst _ _
  seen := by
    show FirstSeen _ ((keepFirst (·.id) input.permissions).map (·.id))
    rw [← keepFirst_map]
    exact firstSeen_keepFirst _
  first id := find?_keepFirst (·.id) (fun id' => decide (id' = id)) input.permissions
  userCount := rfl
  createdAt := rfl
  updatedAt := rfl

/-- Of permissions with different ids each is the first with its id. -/
theorem find?_id_eq_some {permissions : List Permission} (h : (permissions.map (·.id)).Nodup)
    {p : Permission} (hp : p ∈ permissions) : permissions.find? (·.id = p.id) = some p := by
  cases hfound : permissions.find? (·.id = p.id) with
  | none => exact absurd (List.find?_eq_none.mp hfound p hp) (by simp)
  | some q =>
    have hid := List.find?_some hfound
    rw [decide_eq_true_eq] at hid
    rw [List.inj_on_of_nodup_map h (List.mem_of_find?_eq_some hfound) hp hid]

/-- The permissions of a role are told by their ids and by those that are found under them. -/
theorem filterMap_find?_id (r : Role) :
    (r.permissions.map (·.id)).filterMap (fun id => r.permissions.find? (·.id = id))
      = r.permissions := by
  rw [List.filterMap_map]
  calc r.permissions.filterMap (fun p => r.permissions.find? (·.id = p.id))
      = r.permissions.filterMap some :=
        List.filterMap_congr fun p hp => find?_id_eq_some r.distinct hp
    _ = r.permissions := List.filterMap_some

/-- There is one role that is what an input says, at most. -/
theorem MadeFrom.unique (h : r.MadeFrom input) (h' : r'.MadeFrom input) : r = r' := by
  have hpermissions : r.permissions = r'.permissions := by
    rw [← r.filterMap_find?_id, ← r'.filterMap_find?_id, h.seen.unique h'.seen]
    refine List.filterMap_congr fun id _ => ?_
    rw [h.first, h'.first]
  have hdescription : r.description = r'.description :=
    Option.map_injective (fun _ _ => NonBlank.ext) (h.description.trans h'.description.symm)
  exact ext (h.id.trans h'.id.symm) (NonBlank.ext (h.name.trans h'.name.symm))
    (NonBlank.ext (h.displayName.trans h'.displayName.symm)) hdescription
    (h.isSystem.trans h'.isSystem.symm) hpermissions (h.userCount.trans h'.userCount.symm)
    (h.createdAt.trans h'.createdAt.symm) (h.updatedAt.trans h'.updatedAt.symm)

/-- Making a role comes to the one role that the input describes. -/
theorem ofInput_eq_ok_iff : ofInput input = .ok r ↔ r.MadeFrom input := by
  constructor
  · intro h
    cases hname : NonBlank.read input.name with
    | error fault =>
      rw [ofInput, hname] at h
      cases h
    | ok name =>
      rw [ofInput, hname] at h
      cases h
      exact madeFrom_named (NonBlank.read_eq_ok_iff.mp hname)
  · intro h
    have hname := NonBlank.read_eq_ok_iff.mpr h.name
    rw [ofInput, hname]
    exact congrArg Except.ok ((madeFrom_named h.name).unique h)

/-- A blank name makes the making of a role fail. -/
theorem ofInput_blank (h : Text.trim input.name = "") : ofInput input = .error .blank := by
  rw [ofInput, NonBlank.read, (NonBlank.ofText?_eq_none_iff _).mpr h]
  rfl

/-- A name that is not blank is enough to make a role. -/
theorem exists_ofInput (h : Text.trim input.name ≠ "") : ∃ r, ofInput input = .ok r := by
  let name : NonBlank := ⟨Text.trim input.name, Text.trim_trim _, h⟩
  exact ⟨named name input, ofInput_eq_ok_iff.mpr (madeFrom_named rfl)⟩

/-! ## Where roles come from -/

/-- A role comes from somewhere: it is made, read from JSON, sent by a server by itself or in a
list, or answered by a store that is asked for it, for all its roles, or for a change to one. -/
inductive Comes : Role → Prop where
  | made {r : Role} {input : RoleInput} (h : ofInput input = .ok r) : Comes r
  | decoded {r : Role} {v : Json} (h : ofJson? v = some r) : Comes r
  | sent {r : Role} {σ : Type} {send : Http.Transport (StateM σ)} {b : Http.Backend}
      {c : Gateway.Call} {s : σ} (h : ((Http.fetchRole send b c).run.run s).1 = .ok r) : Comes r
  | sentAll {r : Role} {σ : Type} {send : Http.Transport (StateM σ)} {b : Http.Backend} {s : σ}
      {roles : List Role} (h : ((Http.listRoles send b).run.run s).1 = .ok roles)
      (listed : r ∈ roles) : Comes r
  | stored {r : Role} {id : RoleId} {s : Store} (h : (Store.exec (Store.getRole id) s).1 = .ok r) :
      Comes r
  | storedAll {r : Role} {s : Store} {roles : List Role}
      (h : (Store.exec Store.listRoles s).1 = .ok roles) (listed : r ∈ roles) : Comes r
  | created {r : Role} {fresh : RoleId} {now : Instant} {d : RoleDraft} {s : Store}
      (h : (Store.exec (Store.createRole fresh now d) s).1 = .ok r) : Comes r
  | updated {r : Role} {now : Instant} {id : RoleId} {e : RoleEdit} {s : Store}
      (h : (Store.exec (Store.updateRole now id e) s).1 = .ok r) : Comes r

/-- A role with its members counted is made again, with the count for its user count. -/
theorem madeFrom_counted (r : Role) (s : Store) :
    (s.counted r).MadeFrom { r.toInput with userCount := s.countMembers r.id } :=
  ofInput_eq_ok_iff.mp (ofInput_toInput r _)

/-- Wherever a role comes from, there is an input that describes it. -/
theorem Comes.madeFrom (h : r.Comes) : ∃ input, r.MadeFrom input := by
  cases h with
  | @made input h => exact ⟨input, ofInput_eq_ok_iff.mp h⟩
  | decoded h =>
    obtain ⟨input, -, hmade⟩ := Option.bind_eq_some_iff.mp h
    exact ⟨input, ofInput_eq_ok_iff.mp (toOption_eq_some_iff.mp hmade)⟩
  | @sent _ send b c s h =>
    rw [Http.run_fetchRole] at h
    generalize Http.exchanged send b c s = exchange at h
    rcases exchange with ⟨fault | success, s'⟩
    · cases h
    · obtain ⟨input, -, hmade⟩ := bind_eq_ok_iff.mp h
      exact ⟨input, ofInput_eq_ok_iff.mp hmade⟩
  | @sentAll _ send b s roles h listed =>
    rw [Http.run_listRoles] at h
    generalize Http.exchanged send b .listRoles s = exchange at h
    rcases exchange with ⟨fault | success, s'⟩
    · cases h
    · obtain ⟨inputs, -, hmade⟩ := bind_eq_ok_iff.mp h
      obtain ⟨input, -, hmade⟩ := exists_of_mapM_eq_ok hmade listed
      exact ⟨input, ofInput_eq_ok_iff.mp hmade⟩
  | @stored id s h =>
    rw [Store.exec_getRole] at h
    cases hstored : s.role id with
    | error fault => rw [hstored] at h; cases h
    | ok old =>
      rw [hstored] at h
      cases h
      exact ⟨_, madeFrom_counted old s⟩
  | @storedAll s roles h listed =>
    rw [Store.exec_listRoles] at h
    cases h
    obtain ⟨old, -, rfl⟩ := List.mem_map.mp listed
    exact ⟨_, madeFrom_counted old s⟩
  | @created fresh now d s h =>
    rw [Store.exec_createRole] at h
    cases hcreated : s.created fresh now d with
    | error fault => rw [hcreated] at h; cases h
    | ok made =>
      rw [hcreated] at h
      cases h
      obtain ⟨permissions, -, hcreated⟩ := bind_eq_ok_iff.mp hcreated
      obtain ⟨made, hmade, hcreated⟩ := bind_eq_ok_iff.mp hcreated
      obtain ⟨_, -, hcreated⟩ := bind_eq_ok_iff.mp hcreated
      cases hcreated
      exact ⟨_, ofInput_eq_ok_iff.mp hmade⟩
  | @updated now id e s h =>
    rw [Store.exec_updateRole] at h
    cases hrevised : s.revised now id e with
    | error fault => rw [hrevised] at h; cases h
    | ok old =>
      rw [hrevised] at h
      cases h
      exact ⟨_, madeFrom_counted old s⟩

/-- Making a role reaches a normal form. It fails for a blank name, and for no other reason; what it
comes to is what the input says, and nothing else is. Every role comes to be in that way, wherever
it comes from, and made again from its own parts it is the same role. So counting the members of a
role never fails, and changes only its user count. -/
theorem made_normal :
    (∀ input, Text.trim input.name = "" →
      ∃ fault, ofInput input = .error fault ∧ fault.kind = .validation) ∧
    (∀ input, Text.trim input.name ≠ "" → ∃ r, ofInput input = .ok r) ∧
    (∀ input r, ofInput input = .ok r ↔ r.MadeFrom input) ∧
    (∀ r : Role, r.Comes → ∃ input, r.MadeFrom input) ∧
    (∀ r : Role, ofInput r.toInput = .ok r) ∧
    ∀ (r : Role) (s : Store), Store.exec (Store.withCount r) s =
      (.ok { r with userCount := s.countMembers r.id }, s) :=
  ⟨fun _ h => ⟨.blank, ofInput_blank h, rfl⟩, fun _ h => exists_ofInput h,
    fun _ _ => ofInput_eq_ok_iff, fun _ h => h.madeFrom, fun r => ofInput_toInput r r.userCount,
    fun r s => Store.exec_withCount r s⟩

/-- A name with space around it, a display name that is blank, and the same permission twice. -/
def spacious : RoleInput :=
  let view : Permission := ⟨⟨⟨15, by decide⟩⟩, ⟨"files", by decide, by decide⟩, .read, ""⟩
  { id := ⟨⟨14, by decide⟩⟩
    name := "  Editors "
    displayName := some " "
    permissions := [view, view] }

theorem made_normal_spacious :
    (∃ r, ofInput spacious = .ok r ∧ r.Comes ∧ r.MadeFrom spacious ∧ r.name.text = "Editors" ∧
      r.displayName.text = "Editors" ∧ r.permissions.length = 1 ∧ ∃ input, r.MadeFrom input) ∧
    ∃ fault, ofInput { spacious with name := " " } = .error fault ∧ fault.kind = .validation := by
  obtain ⟨hblank, hmade, hiff, hcomes, -, -⟩ := made_normal
  obtain ⟨r, hr⟩ := hmade spacious (by decide)
  have hspacious := (hiff _ _).mp hr
  refine ⟨⟨r, hr, .made hr, hspacious, hspacious.name.trans (by decide),
    hspacious.displayName.trans (by decide), ?_, hcomes r (.made hr)⟩, hblank _ (by decide)⟩
  cases hr
  decide

end Role

end Rolebook
