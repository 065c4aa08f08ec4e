import Rolebook.Membership.Plan
import Mathlib.Data.List.Nodup

/-!
# What a plan does

A plan counts as the set of its operations, and what matters about it is which users it names and
what it makes of a set of members.

* `mem_applyAll`: as long as no user is named twice, a list of operations leaves those it assigns
  and those of the members before that it does not unassign. Hence the order does not matter
  (`applyAll_perm`).
* `users_nodup`: a consistent plan names no user twice, and both ways of making a plan are
  consistent (`Made.consistent`).
* `ofOperations_operations`: a consistent plan is made again from its own operations.
* `compute_applyAll`: the plan for what a part of a plan leaves to do is the rest of the plan. This
  is what lets failed operations be tried again instead of planning afresh.
-/

namespace Rolebook

/-! ## Operations on distinct users -/

theorem applyAll_cons (o : Operation) (os : List Operation) (members : SortedSet UserId) :
    applyAll (o :: os) members = applyAll os (o.applyTo members) := rfl

/-- What a list of operations leaves when it names no user twice. -/
theorem mem_applyAll {os : List Operation} (h : (os.map Operation.user).Nodup)
    {members : SortedSet UserId} {u : UserId} :
    u ∈ applyAll os members ↔ .assign u ∈ os ∨ (u ∈ members ∧ .unassign u ∉ os) := by
  induction os generalizing members with
  | nil => simp [applyAll]
  | cons o os ih =>
    rw [List.map_cons, List.nodup_cons] at h
    obtain ⟨ho, hos⟩ := h
    rw [applyAll_cons, ih hos]
    cases o with
    | assign v =>
      -- the rest of the list does not take back what was just given
      have hv : .unassign v ∉ os := fun hm => ho (List.mem_map.mpr ⟨.unassign v, hm, rfl⟩)
      have hmem : u ∈ (Operation.assign v).applyTo members ↔ u = v ∨ u ∈ members :=
        SortedSet.mem_insert
      rw [hmem]
      simp only [List.mem_cons, Operation.assign.injEq, reduceCtorEq, false_or]
      constructor
      · rintro (ha | ⟨rfl | hm, hu⟩)
        · exact Or.inl (Or.inr ha)
        · exact Or.inl (Or.inl rfl)
        · exact Or.inr ⟨hm, hu⟩
      · rintro ((rfl | ha) | ⟨hm, hu⟩)
        · exact Or.inr ⟨Or.inl rfl, hv⟩
        · exact Or.inl ha
        · exact Or.inr ⟨Or.inr hm, hu⟩
    | unassign v =>
      have hv : .assign v ∉ os := fun hm => ho (List.mem_map.mpr ⟨.assign v, hm, rfl⟩)
      have hmem : u ∈ (Operation.unassign v).applyTo members ↔ u ∈ members ∧ u ≠ v :=
        SortedSet.mem_erase
      rw [hmem]
      simp only [List.mem_cons, Operation.unassign.injEq, reduceCtorEq, false_or, not_or]
      constructor
      · rintro (ha | ⟨⟨hm, hne⟩, hu⟩)
        · exact Or.inl ha
        · exact Or.inr ⟨hm, hne, hu⟩
      · rintro (ha | ⟨hm, hne, hu⟩)
        · exact Or.inl ha
        · exact Or.inr ⟨⟨hm, hne⟩, hu⟩

/-- The order of operations on distinct users does not matter. -/
theorem applyAll_perm {os os' : List Operation} (h : (os.map Operation.user).Nodup)
    (hp : os'.Perm os) (members : SortedSet UserId) :
    applyAll os' members = applyAll os members := by
  have h' : (os'.map Operation.user).Nodup := (hp.map _).nodup_iff.mpr h
  refine SortedSet.ext_mem fun u => ?_
  rw [mem_applyAll h', mem_applyAll h, hp.mem_iff, hp.mem_iff]

namespace Plan

/-! ## Operations of a plan -/

theorem assign_mem_operations {p : Plan} {u : UserId} : .assign u ∈ p.operations ↔ u ∈ p.toAdd := by
  simp [operations, SortedSet.mem_def]

theorem unassign_mem_operations {p : Plan} {u : UserId} :
    .unassign u ∈ p.operations ↔ u ∈ p.toRemove := by
  simp [operations, SortedSet.mem_def]

/-- A plan is its role, who is to join and who is to leave. -/
theorem ext {p q : Plan} (hr : p.role = q.role) (ha : ∀ u, u ∈ p.toAdd ↔ u ∈ q.toAdd)
    (hd : ∀ u, u ∈ p.toRemove ↔ u ∈ q.toRemove) : p = q := by
  cases p
  cases q
  cases hr
  cases SortedSet.ext_mem ha
  cases SortedSet.ext_mem hd
  rfl

/-- The operations of a plan come in their own order. -/
theorem sorted_operations (p : Plan) : p.operations.Pairwise fun a b => rank a < rank b := by
  refine List.pairwise_append.mpr ⟨?_, ?_, ?_⟩
  · exact List.pairwise_map.mpr p.toAdd.sorted
  · refine List.pairwise_map.mpr (p.toRemove.sorted.imp fun {u v} h => ?_)
    rw [Operation.rank_unassign, Operation.rank_unassign]
    omega
  · intro a ha b hb
    obtain ⟨u, _, rfl⟩ := List.mem_map.mp ha
    obtain ⟨v, _, rfl⟩ := List.mem_map.mp hb
    have hu := Id.rank_lt u
    rw [Operation.rank_assign, Operation.rank_unassign]
    omega

/-- A plan asks for nothing twice. -/
theorem nodup_operations (p : Plan) : p.operations.Nodup := by
  refine List.Pairwise.imp ?_ p.sorted_operations
  rintro o _ hlt rfl
  exact Nat.lt_irrefl _ hlt

/-- A plan is empty just if it has no operations. -/
theorem operations_eq_nil_iff {p : Plan} : p.operations = [] ↔ p.isEmpty = true := by
  simp [operations, isEmpty, SortedSet.isEmpty]

/-! ## Consistent plans -/

/-- No user both gets and loses the role. -/
def Consistent (p : Plan) : Prop := ∀ u : UserId, u ∈ p.toAdd → u ∉ p.toRemove

/-- A consistent plan names no user twice. -/
theorem Consistent.users_nodup {p : Plan} (h : p.Consistent) :
    (p.operations.map Operation.user).Nodup := by
  have hmap : p.operations.map Operation.user = p.toAdd.toList ++ p.toRemove.toList := by
    simp [operations, Function.comp_def, Operation.user]
  rw [hmap, List.nodup_append]
  refine ⟨p.toAdd.nodup_toList, p.toRemove.nodup_toList, ?_⟩
  rintro u hu _ hv rfl
  exact h u hu hv

/-- Who is wanted and no member yet is to join. -/
theorem mem_toAdd_compute {role : RoleId} {current desired : List UserId} {u : UserId} :
    u ∈ (compute role current desired).toAdd ↔ u ∈ desired ∧ u ∉ current := by
  show u ∈ (SortedSet.ofList desired).diff (SortedSet.ofList current) ↔ _
  rw [SortedSet.mem_diff, SortedSet.mem_ofList, SortedSet.mem_ofList]

/-- Who is a member and not wanted is to leave. -/
theorem mem_toRemove_compute {role : RoleId} {current desired : List UserId} {u : UserId} :
    u ∈ (compute role current desired).toRemove ↔ u ∈ current ∧ u ∉ desired := by
  show u ∈ (SortedSet.ofList current).diff (SortedSet.ofList desired) ↔ _
  rw [SortedSet.mem_diff, SortedSet.mem_ofList, SortedSet.mem_ofList]

theorem assign_mem_compute {role : RoleId} {current desired : List UserId} {u : UserId} :
    .assign u ∈ (compute role current desired).operations ↔ u ∈ desired ∧ u ∉ current :=
  assign_mem_operations.trans mem_toAdd_compute

theorem unassign_mem_compute {role : RoleId} {current desired : List UserId} {u : UserId} :
    .unassign u ∈ (compute role current desired).operations ↔ u ∈ current ∧ u ∉ desired :=
  unassign_mem_operations.trans mem_toRemove_compute

/-- Nobody is to join and to leave in the plan from one membership to another. -/
theorem consistent_compute (role : RoleId) (current desired : List UserId) :
    (compute role current desired).Consistent := fun _ ha hd =>
  (mem_toAdd_compute.mp ha).2 (mem_toRemove_compute.mp hd).1

/-- Only which users are in the two lists counts. -/
theorem compute_congr (role : RoleId) {current current' desired desired' : List UserId}
    (hc : ∀ u, u ∈ current ↔ u ∈ current') (hd : ∀ u, u ∈ desired ↔ u ∈ desired') :
    compute role current desired = compute role current' desired' := by
  refine ext rfl (fun u => ?_) fun u => ?_
  · rw [mem_toAdd_compute, mem_toAdd_compute, hd, hc]
  · rw [mem_toRemove_compute, mem_toRemove_compute, hc, hd]

/-- The last operation for a user overrides the one before. -/
theorem Consistent.add {p : Plan} (h : p.Consistent) (o : Operation) : (p.add o).Consistent := by
  intro u ha hd
  cases o with
  | assign v =>
    have hd : u ∈ p.toRemove ∧ u ≠ v := SortedSet.mem_erase.mp hd
    rcases SortedSet.mem_insert.mp ha with rfl | ha
    · exact hd.2 rfl
    · exact h u ha hd.1
  | unassign v =>
    have ha : u ∈ p.toAdd ∧ u ≠ v := SortedSet.mem_erase.mp ha
    rcases SortedSet.mem_insert.mp hd with rfl | hd
    · exact ha.2 rfl
    · exact h u ha.1 hd

theorem Consistent.foldl_add {p : Plan} (h : p.Consistent) (os : List Operation) :
    (os.foldl Plan.add p).Consistent := by
  induction os generalizing p with
  | nil => exact h
  | cons o os ih => exact ih (h.add o)

/-- A plan made of any list of operations is consistent. -/
theorem consistent_ofOperations (role : RoleId) (os : List Operation) :
    (ofOperations role os).Consistent :=
  Consistent.foldl_add (fun _ ha _ => SortedSet.not_mem_empty _ ha) os

/-- The plans there are: computed from two lists of users, or collected from operations. -/
inductive Made : Plan → Prop where
  | compute (role : RoleId) (current desired : List UserId) : Made (.compute role current desired)
  | ofOperations (role : RoleId) (operations : List Operation) :
      Made (.ofOperations role operations)

/-- Plans are made in two ways, and consistent in both. -/
theorem Made.consistent {p : Plan} (h : p.Made) : p.Consistent := by
  cases h with
  | compute role current desired => exact consistent_compute role current desired
  | ofOperations role os => exact consistent_ofOperations role os

/-! ## Plans collected from operations -/

/-- The operation that takes another one back. -/
def undo : Operation → Operation
  | .assign u => .unassign u
  | .unassign u => .assign u

/-- Who gets the role is what the operations make of nobody. -/
theorem toAdd_foldl_add (os : List Operation) (p : Plan) :
    (os.foldl add p).toAdd = applyAll os p.toAdd := by
  induction os generalizing p with
  | nil => rfl
  | cons o os ih =>
    rw [List.foldl_cons, ih, applyAll_cons]
    cases o <;> rfl

/-- Who loses the role is what the operations taken back make of nobody. -/
theorem toRemove_foldl_add (os : List Operation) (p : Plan) :
    (os.foldl add p).toRemove = applyAll (os.map undo) p.toRemove := by
  induction os generalizing p with
  | nil => rfl
  | cons o os ih =>
    rw [List.foldl_cons, ih, List.map_cons, applyAll_cons]
    cases o <;> rfl

/-- Operations do not change what role a plan is for. -/
theorem role_foldl_add (os : List Operation) (p : Plan) : (os.foldl add p).role = p.role := by
  induction os generalizing p with
  | nil => rfl
  | cons o os ih =>
    rw [List.foldl_cons, ih]
    cases o <;> rfl

theorem user_undo (o : Operation) : (undo o).user = o.user := by
  cases o <;> rfl

/-- To undo a list is to assign where it unassigns. -/
theorem assign_mem_map_undo {u : UserId} {os : List Operation} :
    .assign u ∈ os.map undo ↔ .unassign u ∈ os := by
  rw [List.mem_map]
  constructor
  · rintro ⟨o, ho, he⟩
    cases o with
    | assign v => cases he
    | unassign v => cases he; exact ho
  · exact fun hu => ⟨_, hu, rfl⟩

/-- A consistent plan is made again from its own operations. -/
theorem Consistent.ofOperations_operations {p : Plan} (h : p.Consistent) :
    ofOperations p.role p.operations = p := by
  have hnodup := h.users_nodup
  have hundo : ((p.operations.map undo).map Operation.user).Nodup := by
    rw [List.map_map, show Operation.user ∘ undo = Operation.user from funext user_undo]
    exact hnodup
  refine ext (role_foldl_add _ _) (fun u => ?_) fun u => ?_
  · rw [ofOperations, toAdd_foldl_add, mem_applyAll hnodup, assign_mem_operations]
    exact ⟨fun hu => hu.resolve_right fun hn => SortedSet.not_mem_empty u hn.1, Or.inl⟩
  · rw [ofOperations, toRemove_foldl_add, mem_applyAll hundo, assign_mem_map_undo,
      unassign_mem_operations]
    exact ⟨fun hu => hu.resolve_right fun hn => SortedSet.not_mem_empty u hn.1, Or.inl⟩

/-! ## Parts of a plan -/

/-- The part of a plan whose operations pass a test. -/
def part (p : Plan) (keep : Operation → Bool) : Plan where
  role := p.role
  toAdd := p.toAdd.filter fun u => keep (.assign u)
  toRemove := p.toRemove.filter fun u => keep (.unassign u)

/-- A part of a plan is carried out in the order of the plan. -/
theorem operations_part (p : Plan) (keep : Operation → Bool) :
    (p.part keep).operations = p.operations.filter keep := by
  rw [operations, operations, List.filter_append, List.filter_map, List.filter_map]
  rfl

/-- Carrying out some operations of the plan that leads from some members to others leaves just the
other operations to do. -/
theorem compute_applyAll (role : RoleId) (members : SortedSet UserId) (desired : List UserId)
    (keep : Operation → Bool) :
    compute role
      (applyAll ((compute role members.toList desired).operations.filter fun o => !keep o)
        members).toList desired
      = (compute role members.toList desired).part keep := by
  have hnodup : (((compute role members.toList desired).operations.filter
      fun o => !keep o).map Operation.user).Nodup :=
    (consistent_compute role members.toList desired).users_nodup.sublist
      (List.filter_sublist.map _)
  refine ext rfl (fun u => ?_) fun u => ?_
  · show _ ↔ u ∈ (compute role members.toList desired).toAdd.filter _
    rw [mem_toAdd_compute, ← SortedSet.mem_def, mem_applyAll hnodup, List.mem_filter,
      List.mem_filter, assign_mem_compute, unassign_mem_compute, SortedSet.mem_filter,
      mem_toAdd_compute, ← SortedSet.mem_def]
    cases keep (.assign u) <;> cases keep (.unassign u) <;> simp <;> tauto
  · show _ ↔ u ∈ (compute role members.toList desired).toRemove.filter _
    rw [mem_toRemove_compute, ← SortedSet.mem_def, mem_applyAll hnodup, List.mem_filter,
      List.mem_filter, assign_mem_compute, unassign_mem_compute, SortedSet.mem_filter,
      mem_toRemove_compute, ← SortedSet.mem_def]
    cases keep (.assign u) <;> cases keep (.unassign u) <;> simp <;> tauto

end Plan

end Rolebook
