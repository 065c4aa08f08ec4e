import Mathlib.Data.List.Perm.Subperm
import Rolebook.Proofs.Membership.Plan

/-!
# Plans that do just what is needed

What an operation does to one user's membership does not depend on the others
(`Operation.mem_applyTo`), and everything here is said of one user at a time.

* `compute_least`: the plan from some members to others leads there in any order, and every list of
  operations that leads there has all the operations of the plan in it. The reason is the same for
  each of them: whoever joins was assigned on the way (`assign_mem_of_joined`), and whoever leaves
  was unassigned (`unassign_mem_of_left`).
* `collapse_faithful`: a list of operations and the plan collected from it make the same of any
  members. One more operation does to the plan's outcome what it does to members
  (`Consistent.applyAll_add`), and the list follows by induction.
-/

namespace Rolebook

/-! ## One user at a time -/

/-- After an operation the members are those it assigns and those it does not unassign. -/
theorem Operation.mem_applyTo {o : Operation} {members : SortedSet UserId} {u : UserId} :
    u ∈ o.applyTo members ↔ o = .assign u ∨ (u ∈ members ∧ o ≠ .unassign u) := by
  cases o with
  | assign v =>
    have hmem : u ∈ (Operation.assign v).applyTo members ↔ u = v ∨ u ∈ members :=
      SortedSet.mem_insert
    rw [hmem]
    simp only [assign.injEq, ne_eq, reduceCtorEq, not_false_eq_true, and_true, eq_comm]
  | unassign v =>
    have hmem : u ∈ (Operation.unassign v).applyTo members ↔ u ∈ members ∧ u ≠ v :=
      SortedSet.mem_erase
    rw [hmem]
    simp only [unassign.injEq, ne_eq, reduceCtorEq, false_or, eq_comm]

/-- Assignments come before removals, and each of them by the id of the user. -/
def Operation.Precedes : Operation → Operation → Prop
  | .assign u, .assign v => u.uuid.toNat < v.uuid.toNat
  | .assign _, .unassign _ => True
  | .unassign _, .assign _ => False
  | .unassign u, .unassign v => u.uuid.toNat < v.uuid.toNat

/-- Operations are carried out in the order of their ranks: assignments first, and within a kind by
user. -/
theorem Operation.precedes_of_rank_lt {o o' : Operation} (h : rank o < rank o') :
    o.Precedes o' := by
  cases o with
  | assign u =>
    cases o' with
    | assign v => exact h
    | unassign v => exact trivial
  | unassign u =>
    cases o' with
    | assign v =>
      have hv := Id.rank_lt v
      rw [rank_unassign, rank_assign] at h
      exact absurd h (by omega)
    | unassign v =>
      rw [rank_unassign, rank_unassign] at h
      exact Nat.lt_of_add_lt_add_left h

/-! ## What it takes to change a membership -/

/-- Whoever is a member only afterwards was assigned on the way. -/
theorem assign_mem_of_joined {os : List Operation} {members : SortedSet UserId} {u : UserId}
    (hbefore : u ∉ members) (hafter : u ∈ applyAll os members) : .assign u ∈ os := by
  induction os generalizing members with
  | nil => exact absurd hafter hbefore
  | cons o os ih =>
    rw [applyAll_cons] at hafter
    by_cases ho : o = .assign u
    · rw [ho]
      exact List.mem_cons_self ..
    · refine List.mem_cons_of_mem _ (ih ?_ hafter)
      rw [Operation.mem_applyTo, not_or]
      exact ⟨ho, fun hm => hbefore hm.1⟩

/-- Whoever is a member only before was unassigned on the way. -/
theorem unassign_mem_of_left {os : List Operation} {members : SortedSet UserId} {u : UserId}
    (hbefore : u ∈ members) (hafter : u ∉ applyAll os members) : .unassign u ∈ os := by
  induction os generalizing members with
  | nil => exact absurd hbefore hafter
  | cons o os ih =>
    rw [applyAll_cons] at hafter
    by_cases ho : o = .unassign u
    · rw [ho]
      exact List.mem_cons_self ..
    · refine List.mem_cons_of_mem _ (ih ?_ hafter)
      rw [Operation.mem_applyTo]
      exact Or.inr ⟨hbefore, ho⟩

namespace Plan

/-! ## What a plan makes of members -/

/-- A consistent plan leaves those it adds and those of the members that it does not remove. -/
theorem Consistent.mem_applyAll_operations {p : Plan} (h : p.Consistent)
    {members : SortedSet UserId} {u : UserId} :
    u ∈ applyAll p.operations members ↔ u ∈ p.toAdd ∨ (u ∈ members ∧ u ∉ p.toRemove) := by
  rw [mem_applyAll h.users_nodup, assign_mem_operations, unassign_mem_operations]

/-- The plan from one membership to another leads from the one to the other. -/
theorem applyAll_compute (role : RoleId) (current desired : List UserId) :
    applyAll (compute role current desired).operations (.ofList current) = .ofList desired := by
  refine SortedSet.ext_mem fun u => ?_
  rw [(consistent_compute role current desired).mem_applyAll_operations, mem_toAdd_compute,
    mem_toRemove_compute, SortedSet.mem_ofList, SortedSet.mem_ofList]
  tauto

/-- No other list of operations gets along without those of the plan. -/
theorem operations_compute_subset {role : RoleId} {current desired : List UserId}
    {os : List Operation} (h : applyAll os (.ofList current) = .ofList desired) :
    (compute role current desired).operations ⊆ os := by
  have hbefore : ∀ u, u ∈ SortedSet.ofList current ↔ u ∈ current := fun _ => SortedSet.mem_ofList
  have hafter : ∀ u, u ∈ applyAll os (.ofList current) ↔ u ∈ desired := by
    intro u
    rw [h, SortedSet.mem_ofList]
  intro o ho
  cases o with
  | assign u =>
    obtain ⟨hwanted, hnew⟩ := assign_mem_compute.mp ho
    exact assign_mem_of_joined (mt (hbefore u).mp hnew) ((hafter u).mpr hwanted)
  | unassign u =>
    obtain ⟨hold, hunwanted⟩ := unassign_mem_compute.mp ho
    exact unassign_mem_of_left ((hbefore u).mpr hold) (mt (hafter u).mp hunwanted)

/-- An empty plan is one without operations. -/
theorem isEmpty_iff {p : Plan} : p.isEmpty = true ↔ ∀ o, o ∉ p.operations := by
  rw [← operations_eq_nil_iff, List.eq_nil_iff_forall_not_mem]

/-- There is nothing to do just where both lists have the same users. -/
theorem isEmpty_compute_iff {role : RoleId} {current desired : List UserId} :
    (compute role current desired).isEmpty = true ↔ ∀ u, u ∈ current ↔ u ∈ desired := by
  rw [isEmpty_iff]
  constructor
  · intro h u
    have hadd := mt assign_mem_compute.mpr (h (.assign u))
    have hremove := mt unassign_mem_compute.mpr (h (.unassign u))
    tauto
  · intro h o ho
    cases o with
    | assign u =>
      obtain ⟨hwanted, hnew⟩ := assign_mem_compute.mp ho
      exact hnew ((h u).mpr hwanted)
    | unassign u =>
      obtain ⟨hold, hunwanted⟩ := unassign_mem_compute.mp ho
      exact hunwanted ((h u).mp hold)

/-- **The plan is exact, and nothing less will do.** In any order its operations turn the current
members into the desired ones. No user is named twice, assignments come before removals, and each of
them by id. Whatever other list of operations has the same outcome has all of these in it, so none
is shorter. Only which users are in the two lists counts; with the lists exchanged, those to be
added and those to be removed are exchanged; and the plan is empty just if the lists have the same
users. -/
theorem compute_least (role : RoleId) (current desired : List UserId) :
    let p := compute role current desired
    (∀ os : List Operation, os.Perm p.operations →
      applyAll os (.ofList current) = .ofList desired) ∧
    (p.operations.map Operation.user).Nodup ∧
    p.operations.Pairwise Operation.Precedes ∧
    (∀ os : List Operation, applyAll os (.ofList current) = .ofList desired →
      p.operations ⊆ os ∧ p.size ≤ os.length) ∧
    (∀ current' desired' : List UserId, (∀ u, u ∈ current' ↔ u ∈ current) →
      (∀ u, u ∈ desired' ↔ u ∈ desired) → compute role current' desired' = p) ∧
    (compute role desired current).toAdd = p.toRemove ∧
    (compute role desired current).toRemove = p.toAdd ∧
    (p.isEmpty = true ↔ ∀ u, u ∈ current ↔ u ∈ desired) := by
  intro p
  have hnodup : (p.operations.map Operation.user).Nodup :=
    (consistent_compute role current desired).users_nodup
  refine ⟨?_, hnodup, ?_, ?_, ?_, rfl, rfl, isEmpty_compute_iff⟩
  · intro os hos
    rw [applyAll_perm hnodup hos]
    exact applyAll_compute role current desired
  · exact p.sorted_operations.imp Operation.precedes_of_rank_lt
  · intro os hos
    have hsubset : p.operations ⊆ os := operations_compute_subset hos
    refine ⟨hsubset, ?_⟩
    rw [← p.length_operations]
    exact (p.nodup_operations.subperm hsubset).length_le
  · intro current' desired' hcurrent hdesired
    exact compute_congr role hcurrent hdesired

/-- One joins and one leaves. Done the other way round the outcome is the same, and so it is of
three operations, of which one is not needed. -/
theorem compute_least_exchange :
    let ann : UserId := ⟨⟨1, by decide⟩⟩
    let bob : UserId := ⟨⟨2, by decide⟩⟩
    let p := compute ⟨⟨7, by decide⟩⟩ [ann, ann] [bob]
    [.unassign ann, .assign bob].Perm p.operations ∧
    applyAll [.unassign ann, .assign bob] (.ofList [ann, ann]) = .ofList [bob] ∧
    applyAll [.assign ann, .assign bob, .unassign ann] (.ofList [ann, ann]) = .ofList [bob] ∧
    p.size ≤ 3 := by
  intro ann bob p
  obtain ⟨hexact, -, -, hleast, -⟩ := compute_least ⟨⟨7, by decide⟩⟩ [ann, ann] [bob]
  have hperm : [.unassign ann, .assign bob].Perm p.operations := List.Perm.swap _ _ []
  have hlonger : applyAll [.assign ann, .assign bob, .unassign ann] (.ofList [ann, ann])
      = .ofList [bob] := by decide
  exact ⟨hperm, hexact _ hperm, hlonger, (hleast _ hlonger).2⟩

/-! ## Lists of operations and their plans -/

/-- Who is to join after one more operation: its own user if it assigns, and the others as before.
-/
theorem mem_toAdd_add {p : Plan} {o : Operation} {u : UserId} :
    u ∈ (p.add o).toAdd ↔ o = .assign u ∨ (u ∈ p.toAdd ∧ o ≠ .unassign u) := by
  have hadd : (p.add o).toAdd = o.applyTo p.toAdd := by cases o <;> rfl
  rw [hadd, Operation.mem_applyTo]

/-- Who is to leave after one more operation: its own user if it unassigns, and the others as
before. -/
theorem mem_toRemove_add {p : Plan} {o : Operation} {u : UserId} :
    u ∈ (p.add o).toRemove ↔ o = .unassign u ∨ (u ∈ p.toRemove ∧ o ≠ .assign u) := by
  have hadd : (p.add o).toRemove = (undo o).applyTo p.toRemove := by cases o <;> rfl
  rw [hadd, Operation.mem_applyTo]
  cases o <;> simp [undo]

/-- One more operation does to what a plan makes of members what it does to members. -/
theorem Consistent.applyAll_add {p : Plan} (h : p.Consistent) (o : Operation)
    (members : SortedSet UserId) :
    applyAll (p.add o).operations members = o.applyTo (applyAll p.operations members) := by
  refine SortedSet.ext_mem fun u => ?_
  rw [(h.add o).mem_applyAll_operations, Operation.mem_applyTo, h.mem_applyAll_operations,
    mem_toAdd_add, mem_toRemove_add]
  by_cases hassign : o = .assign u
  · simp [hassign]
  · simp only [hassign, false_or, not_or, ne_eq, not_false_eq_true, and_true]
    tauto

/-- The plan collected so far does what was done so far, whatever comes next. -/
theorem Consistent.applyAll_foldl_add {p : Plan} (h : p.Consistent) (os : List Operation)
    (members : SortedSet UserId) :
    applyAll (os.foldl Plan.add p).operations members
      = applyAll os (applyAll p.operations members) := by
  induction os generalizing p with
  | nil => rfl
  | cons o os ih =>
    rw [List.foldl_cons, ih (h.add o), h.applyAll_add, applyAll_cons]

/-- A plan names the users of its operations. -/
theorem named_foldl_add {p : Plan} {os : List Operation} {u : UserId} :
    (u ∈ (os.foldl add p).toAdd ∨ u ∈ (os.foldl add p).toRemove) ↔
      (u ∈ p.toAdd ∨ u ∈ p.toRemove) ∨ ∃ o ∈ os, o.user = u := by
  induction os generalizing p with
  | nil => simp
  | cons o os ih =>
    have hnamed : (u ∈ (p.add o).toAdd ∨ u ∈ (p.add o).toRemove) ↔
        (u ∈ p.toAdd ∨ u ∈ p.toRemove) ∨ o.user = u := by
      rw [mem_toAdd_add, mem_toRemove_add]
      cases o <;> simp only [Operation.user, Operation.assign.injEq, Operation.unassign.injEq,
        ne_eq, reduceCtorEq, not_false_eq_true, and_true, false_or] <;> tauto
    rw [List.foldl_cons, ih, hnamed, List.exists_mem_cons_iff, or_assoc]

/-- **A list of operations and its plan do the same.** However often a user is named, what the list
makes of any members is what the operations of the plan make of them, in any order. The plan names
the users of the list and no others, each of them either to be added or to be removed. And a plan
is collected again from its own operations. -/
theorem collapse_faithful (role : RoleId) (os : List Operation) :
    let p := ofOperations role os
    (∀ (members : SortedSet UserId) (os' : List Operation), os'.Perm p.operations →
      applyAll os' members = applyAll os members) ∧
    (∀ u, ¬(u ∈ p.toAdd ∧ u ∈ p.toRemove)) ∧
    (∀ u, u ∈ p.toAdd ∨ u ∈ p.toRemove ↔ ∃ o ∈ os, o.user = u) ∧
    ∀ p' : Plan, p'.Made → ofOperations p'.role p'.operations = p' := by
  intro p
  have hconsistent : p.Consistent := consistent_ofOperations role os
  have hnone : (empty role).Consistent := consistent_ofOperations role []
  refine ⟨?_, ?_, ?_, ?_⟩
  · intro members os' hos'
    calc applyAll os' members
        = applyAll p.operations members := applyAll_perm hconsistent.users_nodup hos' members
      _ = applyAll os members := hnone.applyAll_foldl_add os members
  · rintro u ⟨hadd, hremove⟩
    exact hconsistent u hadd hremove
  · intro u
    have hnobody : ¬(u ∈ (empty role).toAdd ∨ u ∈ (empty role).toRemove) :=
      not_or.mpr ⟨SortedSet.not_mem_empty u, SortedSet.not_mem_empty u⟩
    exact named_foldl_add.trans (or_iff_right hnobody)
  · intro p' hmade
    exact hmade.consistent.ofOperations_operations

/-- A user who is assigned and unassigned in turns ends up with the last of it. -/
theorem collapse_faithful_wavering :
    let ann : UserId := ⟨⟨1, by decide⟩⟩
    let bob : UserId := ⟨⟨2, by decide⟩⟩
    let os : List Operation := [.assign ann, .unassign bob, .unassign ann, .assign bob]
    let p := ofOperations ⟨⟨7, by decide⟩⟩ os
    p.Made ∧ ofOperations p.role p.operations = p ∧
    [.unassign ann, .assign bob].Perm p.operations ∧
    ∀ members, applyAll [.unassign ann, .assign bob] members = applyAll os members := by
  intro ann bob os p
  obtain ⟨hsame, -, -, hagain⟩ := collapse_faithful ⟨⟨7, by decide⟩⟩ os
  have hmade : p.Made := .ofOperations _ os
  have hperm : [.unassign ann, .assign bob].Perm p.operations := List.Perm.swap _ _ []
  exact ⟨hmade, hagain p hmade, hperm, fun members => hsame members _ hperm⟩

end Plan

end Rolebook
