import Rolebook.Proofs.Administrator.Members
import Rolebook.Proofs.Store.Batch

/-!
# Saving members on a store

What a save comes to when the backend is a store. `run_execute` carries out any plan for a stored
role: the operations that fail are those that the store refuses (`fails`), the others are done.
`saveMembers_outcome` follows the save from the members read to the members confirmed, for every
store that a run of acts can leave. It needs such a store for one reason: a reading drops holders
who are not registered, and in such a store there are none.
-/

namespace Rolebook.Store

/-- An administrator of a store. -/
def administrator (m : Moment) (limits : Limits) : Administrator (StateM Store) :=
  ⟨gateway m.fresh m.now, limits⟩

variable {s : Store} {role : RoleId}

/-! ## Reading members -/

/-- Members are read from the store and from nowhere else. -/
theorem run_listMembers (m : Moment) (limits : Limits) (role : RoleId) (s : Store) :
    ((administrator m limits).gateway.listMembers role).run.run s =
      if s.roles.contains role then (.ok (s.members role), s) else (.error (.noRole role), s) :=
  exec_listMembers role s

/-- The ids of the members are those of the holders. -/
theorem run_memberIds (hs : s.Sound) (h : s.roles.contains role = true) (m : Moment)
    (limits : Limits) :
    ((administrator m limits).memberIds role).run.run s = (.ok (s.holders role), s) := by
  rw [Administrator.run_memberIds, run_listMembers, if_pos h]
  show (Except.ok (SortedSet.ofList _), s) = _
  rw [ofList_members hs]

/-- The plan that a save would carry out, from the holders there are. -/
def plan (s : Store) (role : RoleId) (desired : List UserId) : Plan :=
  .compute role (s.holders role).toList desired

theorem consistent_plan (s : Store) (role : RoleId) (desired : List UserId) :
    (s.plan role desired).Consistent := Plan.consistent_compute role _ desired

/-- The plan for a stored role is made of its holders. -/
theorem run_planMembers (hs : s.Sound) (h : s.roles.contains role = true) (m : Moment)
    (limits : Limits) (desired : List UserId) :
    ((administrator m limits).planMembers role desired).run.run s
      = (.ok (s.plan role desired), s) := by
  rw [Administrator.run_planMembers, run_listMembers, if_pos h]
  show (Except.ok (Plan.compute role (SortedSet.ofList _).toList desired), s) = _
  rw [ofList_members hs]
  rfl

/-! ## Carrying out a plan -/

/-- The operations of a list that do not fail. -/
def doable (s : Store) (os : List Operation) : List Operation := os.filter fun o => !s.fails o

/-- The failures of the operations of a list that fail. -/
def failures (s : Store) (os : List Operation) : List Failure :=
  (os.filter s.fails).map fun o => ⟨o, s.faultOf o⟩

theorem operations_failures (s : Store) (os : List Operation) :
    (s.failures os).map (·.operation) = os.filter s.fails := by
  rw [failures, List.map_map]
  exact List.map_id _

/-- A plan for a stored role is carried out but for the operations that fail. -/
theorem run_execute {p : Plan} (hp : p.role = role) (h : s.roles.contains role = true) (m : Moment)
    (limits : Limits) :
    ((administrator m limits).execute p).run s
      = (⟨role, s.doable p.operations, s.failures p.operations⟩,
          s.applyChanges role (s.doable p.operations)) := by
  subst hp
  rw [Administrator.run_execute]
  cases he : p.isEmpty with
  | true =>
    have hnil : p.operations = [] := Plan.operations_eq_nil_iff.mpr he
    rw [hnil]
    rfl
  | false =>
    show (Report.ofOutcomes p.role ((changeAll p.role p.operations).run s).1,
      ((changeAll p.role p.operations).run s).2) = _
    rw [run_changeAll, accepted_of_stored h]
    have hanswers : (p.operations.map fun o => (⟨o, s.answer p.role o⟩ : Outcome))
        = p.operations.map (Report.outcomeOf s.fails s.faultOf) :=
      List.map_congr_left fun o _ => answer_of_stored s p.role o h
    rw [hanswers, Report.ofOutcomes_sorted p.role p.sorted_operations]
    rfl

/-- All that may differ between two stores is who holds a role. -/
structure MembersOnly (role : RoleId) (s s' : Store) : Prop where
  roles : s'.roles = s.roles
  permissions : s'.permissions = s.permissions
  users : s'.users = s.users
  failing : s'.failing = s.failing
  others : ∀ a : Assignment, a.role ≠ role → (a ∈ s'.assignments ↔ a ∈ s.assignments)

/-- A batch changes the members of its role and nothing else. -/
theorem membersOnly_applyChanges (s : Store) (role : RoleId) (os : List Operation) :
    MembersOnly role s (s.applyChanges role os) where
  roles := roles_applyChanges role os s
  permissions := permissions_applyChanges role os s
  users := users_applyChanges role os s
  failing := failing_applyChanges role os s
  others _ h := mem_applyChanges_of_ne role os s h

theorem contains_applyChanges (h : s.roles.contains role = true) (os : List Operation) :
    (s.applyChanges role os).roles.contains role = true := by
  rw [roles_applyChanges]
  exact h

theorem refusal?_of_stored (h : s.roles.contains role = true) {o : Operation}
    (ho : s.fails o = false) : s.refusal? role o = none := by
  simp [refusal?, h, ho]

/-- Changes that are not refused keep a store sound. -/
theorem Sound.applyChanges (hs : s.Sound) {os : List Operation}
    (h : ∀ o ∈ os, s.refusal? role o = none) : (s.applyChanges role os).Sound := by
  induction os generalizing s with
  | nil => exact hs
  | cons o os ih =>
    refine ih (hs.applyChange (h o (List.mem_cons_self ..))) fun o' ho' => ?_
    rw [refusal?_applyChange]
    exact h o' (List.mem_cons_of_mem _ ho')

/-- A batch of what does not fail keeps the store sound. -/
theorem Sound.applyChanges_doable (hs : s.Sound) (h : s.roles.contains role = true)
    (os : List Operation) : (s.applyChanges role (s.doable os)).Sound :=
  hs.applyChanges fun _ ho =>
    refusal?_of_stored h (by simpa using (List.mem_filter.mp ho).2)

/-! ## The members afterwards -/

/-- An assignment fails if its user is to be failed, or is not stored. -/
theorem fails_assign_iff {u : UserId} :
    s.fails (.assign u) = true ↔ u ∈ s.failing ∨ s.users.contains u = false := by
  show (decide (u ∈ s.failing) || !s.users.contains u) = true ↔ _
  rw [Bool.or_eq_true, decide_eq_true_eq, Bool.not_eq_true']

/-- An unassignment fails if its user is to be failed, stored or not. -/
theorem fails_unassign_iff {u : UserId} : s.fails (.unassign u) = true ↔ u ∈ s.failing := by
  show (decide (u ∈ s.failing) || false) = true ↔ _
  rw [Bool.or_false, decide_eq_true_eq]

/-- Who is wanted holds the role afterwards if they held it before or could get it; who is not
wanted holds it if it could not be taken from them. -/
theorem mem_holders_afterPlan {desired : List UserId} {u : UserId} :
    u ∈ (s.applyChanges role (s.doable (s.plan role desired).operations)).holders role ↔
      (u ∈ desired ∧ (u ∈ s.holders role ∨ (s.users.contains u = true ∧ u ∉ s.failing))) ∨
      (u ∉ desired ∧ u ∈ s.holders role ∧ u ∈ s.failing) := by
  have hnodup : ((s.doable (s.plan role desired).operations).map Operation.user).Nodup :=
    (consistent_plan s role desired).users_nodup.sublist (List.filter_sublist.map _)
  have hassign : .assign u ∈ s.doable (s.plan role desired).operations ↔
      (u ∈ desired ∧ u ∉ s.holders role) ∧ u ∉ s.failing ∧ s.users.contains u = true := by
    rw [doable, List.mem_filter, plan, Plan.assign_mem_compute, Bool.not_eq_true',
      ← Bool.not_eq_true, fails_assign_iff, not_or, Bool.not_eq_false]
    exact Iff.rfl
  have hunassign : .unassign u ∈ s.doable (s.plan role desired).operations ↔
      (u ∈ s.holders role ∧ u ∉ desired) ∧ u ∉ s.failing := by
    rw [doable, List.mem_filter, plan, Plan.unassign_mem_compute, Bool.not_eq_true',
      ← Bool.not_eq_true, fails_unassign_iff]
    exact Iff.rfl
  rw [holders_applyChanges, mem_applyAll hnodup, hassign, hunassign]
  by_cases hd : u ∈ desired
  · by_cases hm : u ∈ s.holders role <;> simp [hd, hm, and_comm]
  · by_cases hm : u ∈ s.holders role <;> simp [hd, hm]

/-! ## The save as a whole -/

/-- For a role that is not stored, the read of its members is the end of the save. -/
theorem run_saveMembers_unknown (h : s.roles.contains role = false) (m : Moment) (limits : Limits)
    (desired : List UserId) :
    ((administrator m limits).saveMembers role desired).run.run s
      = (.error (.call (.noRole role)), s) := by
  rw [Administrator.run_saveMembers, run_listMembers, h]
  rfl

/-- For a stored role, the plan is carried out but for what fails, and then the result is what the
report stands for, with the holders there are by then. -/
theorem run_saveMembers_stored (hs : s.Sound) (h : s.roles.contains role = true) (m : Moment)
    (limits : Limits) (desired : List UserId) :
    ((administrator m limits).saveMembers role desired).run.run s =
      let plan := s.plan role desired
      let report : Report := ⟨role, s.doable plan.operations, s.failures plan.operations⟩
      let s' := s.applyChanges role (s.doable plan.operations)
      (report.result.map fun r => ⟨plan, r, some (s'.holders role)⟩, s') := by
  rw [Administrator.run_saveMembers, run_listMembers, if_pos h]
  have hids : Administrator.idsOf (s.members role) = s.holders role := ofList_members hs role
  have hplan : Plan.compute role (s.holders role).toList desired = s.plan role desired := rfl
  have hrole : (s.plan role desired).role = role := rfl
  have hafter := contains_applyChanges h (s.doable (s.plan role desired).operations)
  dsimp only
  rw [hids, hplan, run_execute hrole h m limits]
  dsimp only
  rw [run_memberIds (hs.applyChanges_doable h (s.plan role desired).operations) hafter m limits]
  cases Report.result _ <;> rfl

/-- Nothing can be done just if all fails. -/
theorem doable_eq_nil_iff {os : List Operation} :
    s.doable os = [] ↔ ∀ o ∈ os, s.fails o = true := by
  rw [doable, List.filter_eq_nil_iff]
  simp only [Bool.not_eq_true', Bool.not_eq_false]

/-- If nothing can be done, there are failures just if something was to be done. -/
theorem failures_ne_nil_iff {os : List Operation} (h : s.doable os = []) :
    s.failures os ≠ [] ↔ os ≠ [] := by
  have hall : os.filter s.fails = os := List.filter_eq_self.mpr (doable_eq_nil_iff.mp h)
  rw [failures, hall, Ne, List.map_eq_nil_iff]

/-- The report on a plan stands for an error when there is something in the plan and all of it
fails; the error counts the whole plan. -/
theorem result_plan {p : Plan} :
    (⟨role, s.doable p.operations, s.failures p.operations⟩ : Report).result =
      if p.operations ≠ [] ∧ ∀ o ∈ p.operations, s.fails o = true then
        .error (.allFailed role p.size (s.failures p.operations))
      else .ok ⟨role, s.doable p.operations, s.failures p.operations⟩ := by
  rw [Report.result_eq]
  by_cases hall : p.operations ≠ [] ∧ ∀ o ∈ p.operations, s.fails o = true
  · have hnone : s.doable p.operations = [] := doable_eq_nil_iff.mpr hall.2
    have hlength : (s.failures p.operations).length = p.size := by
      rw [failures, List.length_map, List.filter_eq_self.mpr hall.2, Plan.length_operations]
    rw [if_pos hall, if_pos ⟨(failures_ne_nil_iff hnone).mpr hall.1, hnone⟩]
    dsimp only
    rw [hlength]
  · rw [if_neg hall, if_neg fun h =>
      hall ⟨(failures_ne_nil_iff h.2).mp h.1, doable_eq_nil_iff.mp h.2⟩]

/-- **What a save comes to.** In a store left by any run, a save for a role that is not stored says
so. A save for a stored role fails only if there was something to do and all of it fails, and then
it leaves the store as it was; else it tells of every operation of the plan what became of it, and
reads back the holders there are by then. Nothing but the holders of the role changes. -/
theorem saveMembers_outcome (acts : List Act) (m : Moment) (limits : Limits) (role : RoleId)
    (desired : List UserId) :
    let s := empty.after acts
    let plan := Plan.compute role (s.holders role).toList desired
    let saved := ((administrator m limits).saveMembers role desired).run.run s
    MembersOnly role s saved.2 ∧
    if s.roles.contains role then
      (∀ u : UserId, u ∈ saved.2.holders role ↔
        (u ∈ desired ∧ (u ∈ s.holders role ∨ (s.users.contains u = true ∧ u ∉ s.failing))) ∨
        (u ∉ desired ∧ u ∈ s.holders role ∧ u ∈ s.failing)) ∧
      if plan.operations ≠ [] ∧ ∀ o ∈ plan.operations, s.fails o = true then
        saved = (.error (.allFailed role plan.size (s.failures plan.operations)), s)
      else
        saved.1 = .ok ⟨plan, ⟨role, s.doable plan.operations, s.failures plan.operations⟩,
          some (saved.2.holders role)⟩
    else saved = (.error (.call (.noRole role)), s) := by
  intro s plan saved
  have hs : s.Sound := sound_after acts
  cases h : s.roles.contains role with
  | false =>
    have hsaved : saved = (.error (.call (.noRole role)), s) :=
      run_saveMembers_unknown h m limits desired
    rw [hsaved]
    exact ⟨⟨rfl, rfl, rfl, rfl, fun _ _ => Iff.rfl⟩, rfl⟩
  | true =>
    have hsaved : saved = (_, s.applyChanges role (s.doable plan.operations)) :=
      run_saveMembers_stored hs h m limits desired
    rw [hsaved]
    refine ⟨membersOnly_applyChanges s role _, fun u => mem_holders_afterPlan, ?_⟩
    have hplan : s.plan role desired = plan := rfl
    rw [hplan, result_plan]
    by_cases hall : plan.operations ≠ [] ∧ ∀ o ∈ plan.operations, s.fails o = true
    · rw [if_pos hall, if_pos hall, doable_eq_nil_iff.mpr hall.2]
      rfl
    · rw [if_neg hall, if_neg hall]
      rfl

end Rolebook.Store
