import Rolebook.Proofs.Membership.Plan
import Rolebook.Membership.Report
import Mathlib.Data.List.Nodup
import Mathlib.Data.List.Sort

/-!
# What a report tells

A report is made of outcomes in the order in which the calls came to an end, and is to tell what
happened to each operation, whatever that order was.

* `succeeded_perm_failures`, `mem_succeeded_iff`, `mem_failures_iff`: nothing is lost, nothing is
  made up, and nothing changes sides.
* `ofOutcomes_perm`: the order of the outcomes does not matter, as long as no operation failed
  twice.
* `ofOutcomes_sorted`: outcomes that come in the order of their operations need no sorting.
* `InOrder`: operations are listed in their own order, so those of a plan in the order of the plan.
* `result_eq`: a report is an error when there were failures and nothing else.
-/

namespace Rolebook

/-! ## Sorting by rank -/

section Sorting

variable {α κ : Type} [Ranked κ] {f : α → κ}

/-- What is sorted by rank has ascending ranks. -/
theorem pairwise_mergeSort_rank (f : α → κ) (xs : List α) :
    (xs.mergeSort fun a b => Ranked.atMost (f a) (f b)).Pairwise
      fun a b => rank (f a) ≤ rank (f b) := by
  have h := List.pairwise_mergeSort (fun a b c => Ranked.atMost_trans (f a) (f b) (f c))
    (fun a b => Ranked.atMost_total (f a) (f b)) xs
  exact h.imp fun hab => by simpa [Ranked.atMost] using hab

/-- Two lists of the same elements are sorted into the same list, if their keys tell them apart. -/
theorem mergeSort_rank_perm {xs ys : List α} (hp : xs.Perm ys)
    (hinj : ∀ a ∈ xs, ∀ b ∈ xs, f a = f b → a = b) :
    (xs.mergeSort fun a b => Ranked.atMost (f a) (f b))
      = ys.mergeSort fun a b => Ranked.atMost (f a) (f b) := by
  have hx := List.mergeSort_perm xs fun a b => Ranked.atMost (f a) (f b)
  have hy := List.mergeSort_perm ys fun a b => Ranked.atMost (f a) (f b)
  refine List.Perm.eq_of_pairwise ?_ (pairwise_mergeSort_rank f xs) (pairwise_mergeSort_rank f ys)
    (hx.trans (hp.trans hy.symm))
  intro a b ha hb hab hba
  have ha : a ∈ xs := hx.mem_iff.mp ha
  have hb : b ∈ xs := hp.mem_iff.mpr (hy.mem_iff.mp hb)
  exact hinj a ha b hb (Ranked.rank_inj (Nat.le_antisymm hab hba))

/-- A list in order is left as it is. -/
theorem mergeSort_rank_of_sorted {xs : List α}
    (h : xs.Pairwise fun a b => rank (f a) < rank (f b)) :
    (xs.mergeSort fun a b => Ranked.atMost (f a) (f b)) = xs := by
  refine List.mergeSort_of_pairwise (h.imp fun hab => ?_)
  simpa [Ranked.atMost] using Nat.le_of_lt hab

end Sorting

namespace Report

theorem ext {r r' : Report} (hr : r.role = r'.role) (hs : r.succeeded = r'.succeeded)
    (hf : r.failures = r'.failures) : r = r' := by
  cases r
  cases r'
  cases hr
  cases hs
  cases hf
  rfl

/-! ## Outcomes and what is reported of them -/

theorem success?_eq_some_iff {x : Outcome} {o : Operation} :
    x.success? = some o ↔ x = ⟨o, .ok ()⟩ := by
  obtain ⟨o', result⟩ := x
  cases result with
  | ok u => simp [Outcome.success?]
  | error fault => simp [Outcome.success?]

theorem failure?_eq_some_iff {x : Outcome} {f : Failure} :
    x.failure? = some f ↔ x = ⟨f.operation, .error f.fault⟩ := by
  obtain ⟨o, result⟩ := x
  obtain ⟨o', fault'⟩ := f
  cases result with
  | ok u => simp [Outcome.failure?]
  | error fault => simp [Outcome.failure?]

variable {role : RoleId} {outcomes : List Outcome}

/-- A report has each success of the outcomes once, in its own order. -/
theorem succeeded_perm (role : RoleId) (outcomes : List Outcome) :
    (ofOutcomes role outcomes).succeeded.Perm (outcomes.filterMap Outcome.success?) :=
  List.mergeSort_perm ..

/-- A report has each failure of the outcomes once, in its own order. -/
theorem failures_perm (role : RoleId) (outcomes : List Outcome) :
    (ofOutcomes role outcomes).failures.Perm (outcomes.filterMap Outcome.failure?) :=
  List.mergeSort_perm ..

/-- What is reported as succeeded is what ended well. -/
theorem mem_succeeded_iff {o : Operation} :
    o ∈ (ofOutcomes role outcomes).succeeded ↔ ⟨o, .ok ()⟩ ∈ outcomes := by
  rw [(succeeded_perm role outcomes).mem_iff, List.mem_filterMap]
  simp only [success?_eq_some_iff, exists_eq_right]

/-- What is reported as failed is what ended in that fault. -/
theorem mem_failures_iff {f : Failure} :
    f ∈ (ofOutcomes role outcomes).failures ↔ ⟨f.operation, .error f.fault⟩ ∈ outcomes := by
  rw [(failures_perm role outcomes).mem_iff, List.mem_filterMap]
  simp only [failure?_eq_some_iff, exists_eq_right]

/-- Each outcome is a success or a failure, and none is both. -/
theorem filterMap_perm_operations (outcomes : List Outcome) :
    (outcomes.filterMap Outcome.success? ++
      (outcomes.filterMap Outcome.failure?).map (·.operation)).Perm
      (outcomes.map (·.operation)) := by
  induction outcomes with
  | nil => exact .refl _
  | cons x xs ih =>
    obtain ⟨o, result⟩ := x
    cases result with
    | ok u => exact ih.cons o
    | error fault => exact List.perm_middle.trans (ih.cons o)

/-- Every operation is reported once. -/
theorem succeeded_perm_failures (role : RoleId) (outcomes : List Outcome) :
    ((ofOutcomes role outcomes).succeeded ++
      (ofOutcomes role outcomes).failures.map (·.operation)).Perm
      (outcomes.map (·.operation)) :=
  ((succeeded_perm role outcomes).append ((failures_perm role outcomes).map _)).trans
    (filterMap_perm_operations outcomes)

/-- The order of the outcomes does not matter, unless an operation failed twice. -/
theorem ofOutcomes_perm (role : RoleId) {xs ys : List Outcome} (hp : xs.Perm ys)
    (hd : ((xs.filterMap Outcome.failure?).map (·.operation)).Nodup) :
    ofOutcomes role xs = ofOutcomes role ys := by
  have hs : (ofOutcomes role xs).succeeded = (ofOutcomes role ys).succeeded :=
    mergeSort_rank_perm (hp.filterMap _) fun _ _ _ _ h => h
  have hf : (ofOutcomes role xs).failures = (ofOutcomes role ys).failures :=
    mergeSort_rank_perm (hp.filterMap _) fun _ ha _ hb h => List.inj_on_of_nodup_map hd ha hb h
  exact ext rfl hs hf

theorem ofOutcomes_nil (role : RoleId) : ofOutcomes role [] = .empty role :=
  ext rfl List.mergeSort_nil List.mergeSort_nil

/-- The outcome of an operation that fails as a test says. -/
def outcomeOf (fails : Operation → Bool) (fault : Operation → Fault) (o : Operation) : Outcome :=
  ⟨o, if fails o then .error (fault o) else .ok ()⟩

theorem success?_outcomeOf (fails : Operation → Bool) (fault : Operation → Fault) (o : Operation) :
    (outcomeOf fails fault o).success? = if fails o then none else some o := by
  cases h : fails o <;> simp [outcomeOf, Outcome.success?, h]

theorem failure?_outcomeOf (fails : Operation → Bool) (fault : Operation → Fault) (o : Operation) :
    (outcomeOf fails fault o).failure? = if fails o then some ⟨o, fault o⟩ else none := by
  cases h : fails o <;> simp [outcomeOf, Outcome.failure?, h]

theorem filterMap_success?_outcomeOf (fails : Operation → Bool) (fault : Operation → Fault)
    (os : List Operation) :
    (os.map (outcomeOf fails fault)).filterMap Outcome.success? = os.filter fun o => !fails o := by
  induction os with
  | nil => rfl
  | cons o os ih =>
    rw [List.map_cons, List.filterMap_cons, success?_outcomeOf, ih, List.filter_cons]
    cases fails o <;> rfl

theorem filterMap_failure?_outcomeOf (fails : Operation → Bool) (fault : Operation → Fault)
    (os : List Operation) :
    (os.map (outcomeOf fails fault)).filterMap Outcome.failure?
      = (os.filter fails).map fun o => ⟨o, fault o⟩ := by
  induction os with
  | nil => rfl
  | cons o os ih =>
    rw [List.map_cons, List.filterMap_cons, failure?_outcomeOf, ih, List.filter_cons]
    cases fails o <;> rfl

/-- Outcomes that come in the order of their operations are reported in that order. -/
theorem ofOutcomes_sorted (role : RoleId) {os : List Operation}
    (h : os.Pairwise fun a b => rank a < rank b) (fails : Operation → Bool)
    (fault : Operation → Fault) :
    ofOutcomes role (os.map (outcomeOf fails fault))
      = ⟨role, os.filter fun o => !fails o, (os.filter fails).map fun o => ⟨o, fault o⟩⟩ := by
  refine ext rfl ?_ ?_
  · show ((os.map (outcomeOf fails fault)).filterMap Outcome.success?).mergeSort _ = _
    rw [filterMap_success?_outcomeOf]
    exact mergeSort_rank_of_sorted (h.sublist List.filter_sublist)
  · show ((os.map (outcomeOf fails fault)).filterMap Outcome.failure?).mergeSort _ = _
    rw [filterMap_failure?_outcomeOf]
    refine mergeSort_rank_of_sorted (f := fun x : Failure => x.operation) ?_
    exact List.pairwise_map.mpr (h.sublist List.filter_sublist)

/-! ## The order of a report -/

/-- What succeeded and what failed is listed in the order of operations. -/
structure InOrder (r : Report) : Prop where
  succeeded : r.succeeded.Pairwise fun a b => rank a ≤ rank b
  failures : (r.failures.map (·.operation)).Pairwise fun a b => rank a ≤ rank b

/-- A report is in order, whatever the order of the outcomes. -/
theorem inOrder_ofOutcomes (role : RoleId) (outcomes : List Outcome) :
    (ofOutcomes role outcomes).InOrder where
  succeeded := pairwise_mergeSort_rank id _
  failures := List.pairwise_map.mpr (pairwise_mergeSort_rank Failure.operation _)

theorem inOrder_empty (role : RoleId) : (empty role).InOrder where
  succeeded := List.Pairwise.nil
  failures := List.Pairwise.nil

/-- A report made of failures only has them in the order they had. -/
theorem InOrder.ofFailures {r : Report} (h : r.InOrder) (role : RoleId) :
    (Report.ofFailures role r.failures).InOrder where
  succeeded := List.Pairwise.nil
  failures := h.failures

/-- Operations of a plan that are listed in order come in the order of the plan. -/
theorem sublist_operations {p : Plan} {os : List Operation} (hpart : os.Subperm p.operations)
    (horder : os.Pairwise fun a b => rank a ≤ rank b) : os.Sublist p.operations := by
  have : Std.Antisymm fun a b : Operation => rank a ≤ rank b :=
    ⟨fun _ _ hab hba => Ranked.rank_inj (Nat.le_antisymm hab hba)⟩
  exact List.sublist_of_subperm_of_pairwise hpart horder
    (p.sorted_operations.imp Nat.le_of_lt)

/-! ## The report as a result -/

/-- A report stands for an error when there were failures and nothing else. -/
theorem result_eq (r : Report) :
    r.result =
      if r.failures ≠ [] ∧ r.succeeded = [] then
        .error (.allFailed r.role r.failures.length r.failures)
      else .ok r := by
  obtain ⟨role, succeeded, failures⟩ := r
  cases failures with
  | nil => simp [result, status, failureCount, successCount, Status.ofCounts]
  | cons f fs =>
    cases succeeded with
    | nil => simp [result, status, failureCount, successCount, Status.ofCounts]
    | cons o os => simp [result, status, failureCount, successCount, Status.ofCounts]

/-- A report is one of success just if it has no failure. -/
theorem status_eq_succeeded_iff (r : Report) : r.status = .succeeded ↔ r.failures = [] := by
  obtain ⟨role, succeeded, failures⟩ := r
  cases failures with
  | nil => simp [status, failureCount, successCount, Status.ofCounts]
  | cons f fs =>
    cases succeeded with
    | nil => simp [status, failureCount, successCount, Status.ofCounts]
    | cons o os => simp [status, failureCount, successCount, Status.ofCounts]

/-- A report is one of failure just if there were failures and nothing else. -/
theorem status_eq_failed_iff (r : Report) :
    r.status = .failed ↔ r.failures ≠ [] ∧ r.succeeded = [] := by
  obtain ⟨role, succeeded, failures⟩ := r
  cases failures with
  | nil => simp [status, failureCount, successCount, Status.ofCounts]
  | cons f fs =>
    cases succeeded with
    | nil => simp [status, failureCount, successCount, Status.ofCounts]
    | cons o os => simp [status, failureCount, successCount, Status.ofCounts]

/-- A report is mixed just if it has both. -/
theorem status_eq_partiallySucceeded_iff (r : Report) :
    r.status = .partiallySucceeded ↔ r.failures ≠ [] ∧ r.succeeded ≠ [] := by
  have hsucceeded := r.status_eq_succeeded_iff
  have hfailed := r.status_eq_failed_iff
  cases hstatus : r.status with
  | succeeded => simp [hsucceeded.mp hstatus]
  | partiallySucceeded =>
    rw [hstatus] at hsucceeded hfailed
    have hsome : r.failures ≠ [] := fun h => nomatch hsucceeded.mpr h
    exact iff_of_true rfl ⟨hsome, fun h => nomatch hfailed.mpr ⟨hsome, h⟩⟩
  | failed => simp [(hfailed.mp hstatus).2]

end Report

end Rolebook
