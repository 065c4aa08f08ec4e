import Mathlib.Data.List.Nodup
import Rolebook.Proofs.Store.Counts

/-!
# A store of one piece

Assignments name a role and a user by their ids, and nothing in a store's type says that there are
such a role and such a user. `Intact` says so. Every act keeps it: a change to a role's members is
refused unless both are stored, no user is ever taken out, and a role that is deleted takes its
assignments along.

The members of a role are counted over the assignments, and listed by looking each user up. In a
store of one piece no look-up fails, so the two agree (`toNat_countMembers`).
`referential_integrity` puts this together for every run of invocations, and adds that a count
carried by an inserted role never shows.
-/

namespace Rolebook.Store

/-! ## The invariant -/

/-- Every entry stands under its own id, and every assignment is of a stored role to a registered
user. -/
structure Intact (s : Store) : Prop extends Sound s where
  permissionKeyed : ∀ {id : PermissionId} {p : Permission},
    s.permissions.find? id = some p → p.id = id
  roleStored : ∀ {a : Assignment}, a ∈ s.assignments → s.roles.contains a.role = true

variable {s : Store}

theorem intact_empty : Intact empty where
  toSound := sound_empty
  permissionKeyed h := by cases h
  roleStored h := absurd h (SortedSet.not_mem_empty _)

/-- To put in a role leaves all assignments with a user and a role that are there. -/
theorem Intact.putRole (h : s.Intact) (r : Role) : (s.putRole r).Intact where
  toSound := h.toSound.putRole r
  permissionKeyed := h.permissionKeyed
  roleStored ha := SortedMap.contains_insert (h.roleStored ha) r.id r

theorem Intact.insertPermission (h : s.Intact) (p : Permission) :
    (s.insertPermission p).Intact where
  toSound := h.toSound.step (.insertPermission p)
  permissionKeyed := SortedMap.key_of_insert h.permissionKeyed
  roleStored := h.roleStored

/-- The assignments of a role go with the role. -/
theorem Intact.delete (h : s.Intact) (id : RoleId) :
    ((s.dropRole id).dropAssignments id).Intact where
  toSound := h.toSound.of_fewer find?_dropRole rfl fun ha => (mem_dropAssignments.mp ha).1
  permissionKeyed := h.permissionKeyed
  roleStored {a} ha := by
    obtain ⟨ha, hne⟩ := mem_dropAssignments.mp ha
    show ((s.roles.erase id).find? a.role).isSome = true
    rw [SortedMap.find?_erase, if_neg (Ranked.rank_ne hne.symm)]
    exact h.roleStored ha

/-- Only a stored role is given to a user or taken from one. -/
theorem stored_of_accepted {id : RoleId} {o : Operation} (h : s.refusal? id o = none) :
    s.roles.contains id = true := by
  unfold refusal? at h
  split at h
  next hc => exact hc
  next => cases h

/-- A change that is not refused gives a stored role to a stored user, or takes one away. -/
theorem Intact.applyChange {id : RoleId} {o : Operation} (h : s.Intact)
    (ho : s.refusal? id o = none) : (s.applyChange id o).Intact where
  toSound := h.toSound.applyChange ho
  permissionKeyed := by
    rw [permissions_applyChange]
    exact h.permissionKeyed
  roleStored {a} ha := by
    rw [roles_applyChange]
    cases o with
    | assign u =>
      rcases SortedSet.mem_insert.mp ha with rfl | ha
      · exact stored_of_accepted ho
      · exact h.roleStored ha
    | unassign u => exact h.roleStored (SortedSet.mem_erase.mp ha).1

/-- No step leaves an assignment without its user or its role. -/
theorem Intact.step {s' : Store} {a : Act} (h : s.Intact) (hs : Step s a s') : s'.Intact := by
  have hsound : s'.Sound := h.toSound.step hs
  cases hs with
  | insertUser | failFor | clearFailures => exact ⟨hsound, h.permissionKeyed, h.roleStored⟩
  | insertPermission p => exact h.insertPermission p
  | insertRole => exact h.putRole _
  | nameTaken => exact h
  | call effect =>
    cases effect with
    | nothing => exact h
    | create => exact h.putRole _
    | update => exact h.putRole _
    | delete => exact h.delete _
    | change accepted => exact h.applyChange accepted

/-- A run of invocations keeps a store intact. -/
theorem Intact.undergo (h : s.Intact) (history : List Invocation) : (s.undergo history).Intact :=
  undergo_keeps (fun _ _ a _ s hs => hs.step (step_apply s a)) h

/-- No run from the empty store leaves an assignment without its user or its role. -/
theorem intact_undergo (history : List Invocation) : (empty.undergo history).Intact :=
  intact_empty.undergo history

/-! ## Members and their count -/

/-- The assignments of a role. -/
def held (s : Store) (id : RoleId) : SortedSet Assignment :=
  s.assignments.filter fun a => decide (a.role = id)

theorem mem_held {id : RoleId} {a : Assignment} :
    a ∈ s.held id ↔ a ∈ s.assignments ∧ a.role = id := by
  rw [held, SortedSet.mem_filter, decide_eq_true_eq]

/-- Every assignment in a list is told of when all its users are registered. -/
theorem ids_filterMap_find? (hs : s.Sound) {as : List Assignment}
    (h : ∀ a ∈ as, s.users.contains a.user = true) :
    (as.filterMap fun a => s.users.find? a.user).map (·.id) = as.map (·.user) := by
  induction as with
  | nil => rfl
  | cons a as ih =>
    obtain ⟨u, hu⟩ := Option.isSome_iff_exists.mp (h a (List.mem_cons_self ..))
    rw [List.filterMap_cons, hu]
    dsimp only
    rw [List.map_cons, List.map_cons, hs.userKeyed hu, ih fun b hb => h b (List.mem_cons_of_mem _ hb)]

/-- Who is listed as a member is who holds the role, in the order of ids. -/
theorem ids_members (hs : s.Sound) (id : RoleId) :
    (s.members id).map (·.id) = (s.held id).toList.map (·.user) :=
  ids_filterMap_find? hs fun _ ha => hs.holderKnown (mem_held.mp ha).1

/-- As many members are listed as there are assignments. -/
theorem length_members (hs : s.Sound) (id : RoleId) :
    (s.members id).length = (s.held id).size := by
  have h := congrArg List.length (ids_members hs id)
  rwa [List.length_map, List.length_map] at h

/-- No user is listed twice: an assignment is stored once, and those of a role differ by user. -/
theorem nodup_ids_members (hs : s.Sound) (id : RoleId) : ((s.members id).map (·.id)).Nodup := by
  rw [ids_members hs]
  refine (s.held id).nodup_toList.map_on fun a ha b hb he => ?_
  exact Assignment.ext he ((mem_held.mp ha).2.trans (mem_held.mp hb).2.symm)

/-- The count of a role's members is the number of those listed, as far as counts go. -/
theorem toNat_countMembers (hs : s.Sound) (id : RoleId) :
    (s.countMembers id).toNat = min (UInt32.size - 1) (s.members id).length := by
  rw [length_members hs, countMembers, UInt32.toNat_ofNat']
  -- the count is capped before it is made 32 bits wide, so nothing is lost
  show min (UInt32.size - 1) (s.held id).size % _ = _
  have hlt : min (UInt32.size - 1) (s.held id).size < 2 ^ 32 := by
    have : UInt32.size - 1 < 2 ^ 32 := by decide
    omega
  exact Nat.mod_eq_of_lt hlt

/-! ## What is read -/

/-- The members of a stored role are listed. -/
theorem run_listMembers_stored {id : RoleId} {r : Role} (h : s.roles.find? id = some r)
    (m : Moment) :
    ((gateway m.fresh m.now).listMembers id).run.run s = (.ok (s.members id), s) := by
  have hstored : s.roles.contains id = true := Option.isSome_of_eq_some h
  have hmembers : ((gateway m.fresh m.now).listMembers id).run.run s = _ := exec_listMembers id s
  rw [hmembers, if_pos hstored]

/-- A stored role is read as it is stored, but for the count. -/
theorem run_getRole_stored (hs : s.Sound) {id : RoleId} {r : Role} (h : s.roles.find? id = some r)
    (m : Moment) :
    ((gateway m.fresh m.now).getRole id).run.run s
      = (.ok { r with userCount := s.countMembers id }, s) := by
  have hread : ((gateway m.fresh m.now).getRole id).run.run s = _ := exec_getRole id s
  rw [hread, role_of_find? h]
  show (Except.ok { r with userCount := s.countMembers r.id }, s) = _
  rw [hs.roleKeyed h]

/-- A stored role is among those that are listed. -/
theorem counted_mem_values {id : RoleId} {r : Role} (h : s.roles.find? id = some r) :
    s.counted r ∈ s.roles.values.map s.counted :=
  List.mem_map_of_mem ((SortedMap.mem_values_iff s.roles r).mpr ⟨id, h⟩)

/-- A listing shows a stored role once and as a reading of that role shows it. -/
theorem eq_of_mem_listing (hs : s.Sound) {id : RoleId} {r r' : Role}
    (h : s.roles.find? id = some r) (hr' : r' ∈ s.roles.values.map s.counted) (hid : r'.id = id) :
    r' = s.counted r := by
  obtain ⟨stored, hstored, rfl⟩ := List.mem_map.mp hr'
  obtain ⟨k, hk⟩ := (SortedMap.mem_values_iff s.roles stored).mp hstored
  have hkey : k = id := (hs.roleKeyed hk).symm.trans hid
  rw [hkey, h] at hk
  cases hk
  rfl

/-- **A store of one piece.** Whatever was done to the empty store, every entry stands under its own
id, and every assignment names a stored role and a registered user. So the count that a reading or a
listing gives a stored role is the number of its members listed, each of them once; and all of this
reads as if the roles inserted had carried no counts. -/
theorem referential_integrity (history : List Invocation) (m : Moment) :
    let s := empty.undergo history
    let g := gateway m.fresh m.now
    s.Intact ∧
    (∀ (id : RoleId) (r : Role), s.roles.find? id = some r →
      ∃ (users : List User) (count : UInt32) (listed : List Role),
        (g.listMembers id).run.run s = (.ok users, s) ∧
        (users.map (·.id)).Nodup ∧
        count.toNat = min (UInt32.size - 1) users.length ∧
        (g.getRole id).run.run s = (.ok { r with userCount := count }, s) ∧
        g.listRoles.run.run s = (.ok listed, s) ∧
        { r with userCount := count } ∈ listed ∧
        ∀ r' ∈ listed, r'.id = id → r' = { r with userCount := count }) ∧
    let t := empty.undergo (history.map Invocation.uncounted)
    (g.listRoles.run.run t).1 = (g.listRoles.run.run s).1 ∧
    ∀ id : RoleId, ((g.getRole id).run.run t).1 = ((g.getRole id).run.run s).1 ∧
      ((g.listMembers id).run.run t).1 = ((g.listMembers id).run.run s).1 := by
  intro s g
  have hs : s.Intact := intact_undergo history
  refine ⟨hs, fun id r hr => ?_, ?_⟩
  · have hcounted : s.counted r = { r with userCount := s.countMembers id } := by
      rw [counted, hs.roleKeyed hr]
    refine ⟨s.members id, s.countMembers id, _, run_listMembers_stored hr m,
      nodup_ids_members hs.toSound id, toNat_countMembers hs.toSound id,
      run_getRole_stored hs.toSound hr m, exec_listRoles s, ?_, ?_⟩
    · rw [← hcounted]
      exact counted_mem_values hr
    · rw [← hcounted]
      exact fun r' hr' hid => eq_of_mem_listing hs.toSound hr hr' hid
  · intro t
    have ht : Uncounted t s := undergo_uncounted empty history
    have h := alikeGateways_uncounted m true
    exact ⟨(h.listRoles t s ht).1, fun id => ⟨(h.getRole id t s ht).1, (h.listMembers id t s ht).1⟩⟩

/-- A role that claims nine users is put in, and given to one. -/
def overstated : List Invocation :=
  [.act (.insertRole (editors false 9)), .act (.insertUser ada),
    .act (.call someMoment (.change editorsId (.assign ada.id)))]

/-- The nine users do not show: the count read is that of the members listed. -/
theorem referential_integrity_overstated :
    let s := empty.undergo overstated
    let g := gateway someMoment.fresh someMoment.now
    ∃ r users count, s.roles.find? editorsId = some r ∧
      (g.listMembers editorsId).run.run s = (.ok users, s) ∧
      (g.getRole editorsId).run.run s = (.ok { r with userCount := count }, s) ∧
      count.toNat = users.length ∧ r.userCount = 9 ∧ users.length = 1 := by
  obtain ⟨users, count, -, hmembers, -, hcount, hread, -⟩ :=
    (referential_integrity overstated someMoment).2.1 editorsId _ rfl
  have hlength : users.length = 1 := by
    have h := congrArg (fun x : Except Fault (List User) × Store => x.1.toOption.map List.length)
      hmembers
    exact (Option.some.inj h).symm
  refine ⟨_, users, count, rfl, hmembers, hread, ?_, rfl, hlength⟩
  rw [hcount, hlength]
  rfl

end Rolebook.Store
