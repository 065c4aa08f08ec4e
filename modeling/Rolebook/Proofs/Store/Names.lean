import Rolebook.Proofs.Store.Counts
import Rolebook.Proofs.Text.Order

/-!
# Names that stay apart

A role gets its name when it is created or inserted, and keeps it through every edit. At both doors
the name is compared with those of the stored roles, letter case aside; an inserted role is compared
with all but the one whose place it takes. `NamesApart` is what that keeps: no two stored roles go
by the same letters.

Sorted by name, then, no two roles are tied. `names_stay_unique` draws the conclusion for listings:
each stored role comes once, names strictly increase byte by byte, and ids have no say in the order.
-/

namespace Rolebook

/-- A role without its id and without a count of its users. -/
def Role.bare (r : Role) : Role := { r.uncounted with id := ⟨⟨0, by decide⟩⟩ }

namespace Store

/-! ## The invariant -/

/-- No two stored roles go by the same letters. -/
structure NamesApart (s : Store) : Prop extends Sound s where
  apart : ∀ {id id' : RoleId} {r r' : Role}, s.roles.find? id = some r →
    s.roles.find? id' = some r' → Text.lower r.name.text = Text.lower r'.name.text → id = id'

variable {s : Store}

theorem namesApart_empty : NamesApart empty where
  toSound := sound_empty
  apart h := by cases h

/-- A name that is found free is that of no stored role but the one excepted. -/
theorem lower_ne_of_unique {name : NonBlank} {except : Option RoleId} {u : Unit}
    (h : s.ensureUniqueName name except = .ok u) {id : RoleId} {r : Role}
    (hr : s.roles.find? id = some r) (hid : some r.id ≠ except) :
    Text.lower r.name.text ≠ Text.lower name.text := by
  intro hname
  have htaken : (s.roles.values.any fun r =>
      decide (some r.id ≠ except) && Text.sameLetters r.name.text name.text) = true := by
    refine List.any_eq_true.mpr ⟨r, (SortedMap.mem_values_iff s.roles r).mpr ⟨id, hr⟩, ?_⟩
    rw [Bool.and_eq_true, decide_eq_true_eq, Text.sameLetters_iff]
    exact ⟨hid, hname⟩
  rw [ensureUniqueName, if_pos htaken] at h
  cases h

/-- A role whose name is that of no other stored role can be put in. -/
theorem NamesApart.putRole (h : s.NamesApart) {r : Role}
    (hfree : ∀ {id : RoleId} {r' : Role}, s.roles.find? id = some r' → r.id ≠ id →
      Text.lower r'.name.text ≠ Text.lower r.name.text) : (s.putRole r).NamesApart where
  toSound := h.toSound.putRole r
  apart hv hv' hname := by
    rcases SortedMap.find?_insert_eq_some_iff.mp hv with ⟨hid, rfl⟩ | ⟨hne, hv⟩
    · rcases SortedMap.find?_insert_eq_some_iff.mp hv' with ⟨hid', -⟩ | ⟨hne', hv'⟩
      · exact hid.symm.trans hid'
      · exact absurd hname.symm (hfree hv' hne')
    · rcases SortedMap.find?_insert_eq_some_iff.mp hv' with ⟨-, rfl⟩ | ⟨-, hv'⟩
      · exact absurd hname (hfree hv hne)
      · exact h.apart hv hv' hname

/-- With fewer roles, or the same, nothing is lost. -/
theorem NamesApart.of_fewer {s' : Store} (h : s.NamesApart) (hs : s'.Sound)
    (hr : ∀ {id r}, s'.roles.find? id = some r → s.roles.find? id = some r) : s'.NamesApart where
  toSound := hs
  apart hf hf' := h.apart (hr hf) (hr hf')

/-- One act keeps names apart. -/
theorem NamesApart.step {s' : Store} {a : Act} (h : s.NamesApart) (hs : Step s a s') :
    s'.NamesApart := by
  have hsound : s'.Sound := h.toSound.step hs
  cases hs with
  | insertUser | insertPermission | failFor | clearFailures =>
    exact h.of_fewer hsound fun hf => hf
  | insertRole free =>
    refine h.putRole fun hf hne => lower_ne_of_unique free hf fun he => hne ?_
    exact (Option.some.inj he).symm.trans (h.roleKeyed hf)
  | nameTaken => exact h
  | call effect =>
    cases effect with
    | nothing => exact h
    | create _ _ free => exact h.putRole fun hf _ => lower_ne_of_unique free hf nofun
    | update _ found _ made =>
      -- the role keeps its name, which is nobody else's
      obtain ⟨hid, hname⟩ := id_name_of_edited made
      refine h.putRole fun hf hne heq => hne ?_
      rw [hname] at heq
      rw [hid, h.toSound.id_of_role found]
      exact (h.apart hf (find?_of_role found) heq).symm
    | delete => exact h.of_fewer hsound find?_dropRole
    | change => exact h.of_fewer hsound fun hf => by rwa [roles_applyChange] at hf

/-- No run from the empty store brings two roles of one name. -/
theorem namesApart_undergo (history : List Invocation) : (empty.undergo history).NamesApart :=
  undergo_keeps (fun _ _ a _ s hs => hs.step (step_apply s a)) namesApart_empty

/-! ## Listings -/

/-- Roles in the order of their names. -/
def byName (rs : List Role) : List Role :=
  rs.mergeSort fun r s => Text.atMost r.name.text s.name.text

/-- Roles are listed by name, with their counts. -/
theorem run_listRoles (m : Moment) (limits : Limits) (s : Store) :
    (administrator m limits).listRoles.run.run s
      = (.ok (byName (s.roles.values.map s.counted)), s) := by
  rw [Administrator.listRoles, Administrator.run_attempt_bind]
  have hlist : (administrator m limits).gateway.listRoles.run.run s = _ := exec_listRoles s
  rw [hlist]
  rfl

theorem perm_byName (rs : List Role) : (byName rs).Perm rs := List.mergeSort_perm ..

/-- Where no two names are the same, the names of roles sorted by name strictly increase. -/
theorem pairwise_byName {rs : List Role} (h : rs.Pairwise fun r r' => r.name ≠ r'.name) :
    (byName rs).Pairwise fun r r' => r.name.text < r'.name.text := by
  have hle : (byName rs).Pairwise fun r r' => Text.atMost r.name.text r'.name.text = true := by
    unfold byName
    refine List.pairwise_mergeSort ?_ ?_ rs
    · exact fun a b c => Text.atMost_trans a.name.text b.name.text c.name.text
    · exact fun a b => Text.atMost_total a.name.text b.name.text
  have hne : (byName rs).Pairwise fun r r' => r.name ≠ r'.name :=
    h.perm (perm_byName rs).symm fun hr => hr.symm
  refine (hle.and hne).imp fun ⟨hab, hname⟩ => ?_
  refine lt_of_le_of_ne ?_ fun heq => hname (NonBlank.ext heq)
  simpa [Text.atMost] using hab

/-- No two of the listed roles have the same name. -/
theorem NamesApart.pairwise_counted (h : s.NamesApart) :
    (s.roles.values.map s.counted).Pairwise fun r r' => r.name ≠ r'.name := by
  refine List.pairwise_map.mpr (SortedMap.pairwise_values fun hr hr' hne hname => hne ?_)
  exact h.apart hr hr' (congrArg (fun n : NonBlank => Text.lower n.text) hname)

/-- Two listings without ids and counts are the same list if the same roles are in them. -/
theorem NamesApart.map_bare_byName {t : Store} (hs : s.NamesApart) (ht : t.NamesApart)
    (h : (t.roles.values.map Role.bare).Perm (s.roles.values.map Role.bare)) :
    (byName (t.roles.values.map t.counted)).map Role.bare
      = (byName (s.roles.values.map s.counted)).map Role.bare := by
  have hbare : ∀ s : Store, ((byName (s.roles.values.map s.counted)).map Role.bare).Perm
      (s.roles.values.map Role.bare) := by
    intro s
    refine ((perm_byName _).map Role.bare).trans ?_
    rw [List.map_map]
    exact .refl _
  have hsorted : ∀ {s : Store}, s.NamesApart →
      ((byName (s.roles.values.map s.counted)).map Role.bare).Pairwise
        fun r r' => r.name.text < r'.name.text :=
    fun hs => List.pairwise_map.mpr (pairwise_byName hs.pairwise_counted)
  refine List.Perm.eq_of_pairwise ?_ (hsorted ht) (hsorted hs)
    ((hbare t).trans (h.trans (hbare s).symm))
  intro r r' _ _ hlt hgt
  exact absurd (lt_trans hlt hgt) (lt_irrefl _)

/-- Each role is stored once. -/
theorem nodup_ids_values (hs : s.Sound) : (s.roles.values.map (·.id)).Nodup := by
  refine List.pairwise_map.mpr (SortedMap.pairwise_values fun hr hr' hne hid => hne ?_)
  exact (hs.roleKeyed hr).symm.trans (hid.trans (hs.roleKeyed hr'))

/-- **Names stay unique.** Whatever was done to the empty store, the names of two stored roles
differ by more than the case of letters, and no name is blank or has white space at its ends. So a
listing has every stored role once, in an order of strictly increasing names, byte by byte; and
where the same roles are stored under other ids, they are listed in the same order. -/
theorem names_stay_unique (history : List Invocation) (m : Moment) (limits : Limits) :
    let s := empty.undergo history
    (∀ (id id' : RoleId) (r r' : Role), s.roles.find? id = some r → s.roles.find? id' = some r' →
      id ≠ id' → Text.sameLetters r.name.text r'.name.text = false) ∧
    (∀ r ∈ s.roles.values, r.name.text ≠ "" ∧ Text.trim r.name.text = r.name.text) ∧
    ∃ listed, (administrator m limits).listRoles.run.run s = (.ok listed, s) ∧
      listed.Perm (s.roles.values.map s.counted) ∧ (s.roles.values.map (·.id)).Nodup ∧
      (listed.Pairwise fun r r' => Text.bytes r.name.text < Text.bytes r'.name.text) ∧
      ∀ history' : List Invocation,
        let t := empty.undergo history'
        (t.roles.values.map Role.bare).Perm (s.roles.values.map Role.bare) →
        ∃ listed', (administrator m limits).listRoles.run.run t = (.ok listed', t) ∧
          listed'.map Role.bare = listed.map Role.bare := by
  intro s
  have hs : s.NamesApart := namesApart_undergo history
  have hlisted := run_listRoles m limits s
  refine ⟨fun id id' r r' hr hr' hne => ?_, fun r _ => ⟨r.name.ne_empty, r.name.trimmed⟩,
    _, hlisted, perm_byName _, nodup_ids_values hs.toSound, ?_, fun history' => ?_⟩
  · exact Bool.eq_false_iff.mpr fun h => hne (hs.apart hr hr' ((Text.sameLetters_iff _ _).mp h))
  · exact (pairwise_byName hs.pairwise_counted).imp Text.bytes_lt_iff.mpr
  · intro t hperm
    exact ⟨_, run_listRoles m limits t, hs.map_bare_byName (namesApart_undergo history') hperm⟩

/-- A role is put in, and another created under a name with blanks around it. -/
def twoRoles : List Invocation :=
  [.act (.insertRole (editors false 0)),
    .administer someMoment {} (.createRole { name := " Authors " })]

/-- The same two roles, the one put in under an id that comes after the other's. -/
def twoRolesTurned : List Invocation :=
  [.act (.insertRole { editors false 0 with id := ⟨⟨9, by decide⟩⟩ }),
    .administer someMoment {} (.createRole { name := " Authors " })]

/-- The names differ, and the listing is the same under other ids. -/
theorem names_stay_unique_two :
    let s := empty.undergo twoRoles
    let t := empty.undergo twoRolesTurned
    (∃ r r', s.roles.find? editorsId = some r ∧ s.roles.find? someMoment.fresh = some r' ∧
      Text.sameLetters r.name.text r'.name.text = false) ∧
    (t.roles.values.map Role.bare).Perm (s.roles.values.map Role.bare) ∧
    ∃ listed listed', (administrator someMoment {}).listRoles.run.run s = (.ok listed, s) ∧
      (administrator someMoment {}).listRoles.run.run t = (.ok listed', t) ∧
      listed'.map Role.bare = listed.map Role.bare := by
  intro s t
  obtain ⟨hnames, -, listed, hlisted, -, -, -, hturned⟩ := names_stay_unique twoRoles someMoment {}
  have hperm : (t.roles.values.map Role.bare).Perm (s.roles.values.map Role.bare) :=
    List.Perm.swap _ _ []
  obtain ⟨listed', hlisted', hsame⟩ := hturned twoRolesTurned hperm
  refine ⟨⟨_, _, rfl, rfl, ?_⟩, hperm, listed, listed', hlisted, hlisted', hsame⟩
  exact hnames editorsId someMoment.fresh _ _ rfl rfl (by decide)

end Store

end Rolebook
