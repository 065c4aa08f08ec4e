import Rolebook.Membership.FanOut
import Mathlib.Data.Option.Defs
import Mathlib.Data.List.Basic

/-!
# How a batch goes

A batch goes from event to event, and an event is one of two things: a waiting call begins, or the
call under way that ends first comes to its end (`Step`). What both kinds of event keep holds at
the end (`run_induction`), when nothing waits and nothing is under way any more. Two batches that
keep in step end in step (`run_relates`).
-/

namespace Rolebook.FanOut

variable {σ τ : Type} {rules : Rules σ} {b b' : Batch σ}

/-! ## The call that ends first -/

/-- Where calls are under way, one of them is the first to end. -/
theorem earliest?_eq_none_iff {rs : List (Running σ)} : earliest? rs = none ↔ rs = [] := by
  constructor
  · intro h
    cases rs with
    | nil => rfl
    | cons r rs =>
      unfold earliest? at h
      split at h
      next => cases h
      next =>
        split at h
        next => cases h
        next => cases h
  · intro h
    rw [h]
    rfl

/-- The call that ends first and the others are the calls under way. -/
theorem earliest?_perm {rs rest : List (Running σ)} {r : Running σ}
    (h : earliest? rs = some (r, rest)) : (r :: rest).Perm rs := by
  induction rs generalizing r rest with
  | nil => cases h
  | cons x xs ih =>
    unfold earliest? at h
    split at h
    next hn =>
      cases h
      rw [earliest?_eq_none_iff.mp hn]
    next first others hs =>
      split at h
      next =>
        cases h
        exact .refl _
      next =>
        cases h
        exact (List.Perm.swap ..).trans ((ih hs).cons x)

/-! ## The operations of a batch -/

/-- The operations of a batch: those whose calls are over, those under way, and those that wait. -/
def Batch.operations (b : Batch σ) : List Operation :=
  b.ended.map (·.operation) ++ (b.running.map (·.operation) ++ b.waiting)

theorem operation_running (rules : Rules σ) (clock : Nat) (o : Operation) (p : Pending σ) :
    (rules.running clock o p).operation = o := by
  unfold Rules.running
  split <;> rfl

/-- A call that takes too long does nothing at its end but to report that. -/
theorem finish_running (rules : Rules σ) (clock : Nat) (o : Operation) (p : Pending σ) :
    (rules.running clock o p).finish
      = if p.delay ≤ rules.timeout then p.finish else pure (.error (rules.overdue o)) := by
  unfold Rules.running
  split <;> rfl

/-- No operation is lost or added when a call begins. -/
theorem operations_start (rules : Rules σ) {o : Operation} {waiting : List Operation}
    (h : b.waiting = o :: waiting) : (b.start rules o waiting).operations = b.operations := by
  show _ ++ ((b.running ++ [_]).map _ ++ waiting) = _
  rw [Batch.operations, h, List.map_append, List.map_singleton, operation_running, List.append_assoc]
  rfl

/-- No operation is lost or added when a call ends. -/
theorem operations_settle {r : Running σ} {rest : List (Running σ)}
    (hperm : (r :: rest).Perm b.running) : (b.settle r rest).operations.Perm b.operations := by
  show ((b.ended ++ [_]).map _ ++ (rest.map _ ++ b.waiting)).Perm _
  rw [List.map_append, List.map_singleton, List.append_assoc]
  refine List.Perm.append_left _ ?_
  exact (hperm.map (·.operation)).append_right b.waiting

section Distinct

variable (hd : b.operations.Nodup)

include hd

/-- A call that is over is neither under way nor waiting. -/
theorem ne_ended {x : Span} (hx : x ∈ b.ended) {o : Operation}
    (ho : o ∈ b.running.map (·.operation) ++ b.waiting) : o ≠ x.operation := fun he =>
  (List.nodup_append.mp hd).2.2 _ (List.mem_map_of_mem hx) _ ho he.symm

/-- A call under way does not wait. -/
theorem ne_underway {r : Running σ} (hr : r ∈ b.running) {o : Operation} (ho : o ∈ b.waiting) :
    o ≠ r.operation := fun he =>
  (List.nodup_append.mp (List.nodup_append.mp hd).2.1).2.2 _ (List.mem_map_of_mem hr) _ ho he.symm

/-- A call that ends is none of those that go on. -/
theorem settled_ne {r r' : Running σ} {rest : List (Running σ)} (hperm : (r :: rest).Perm b.running)
    (hr' : r' ∈ rest) : r.operation ≠ r'.operation := by
  have hnodup := (List.nodup_append.mp (List.nodup_append.mp hd).2.1).1
  have hnodup := (hperm.map (·.operation)).nodup_iff.mpr hnodup
  intro he
  refine (List.nodup_cons.mp hnodup).1 ?_
  show r.operation ∈ _
  rw [he]
  exact List.mem_map_of_mem hr'

end Distinct

/-! ## Events -/

/-- What can happen to a batch next. -/
inductive Step (rules : Rules σ) (b : Batch σ) : Batch σ → Prop where
  | start {o : Operation} {waiting : List Operation} (next : b.waiting = o :: waiting) :
      Step rules b (b.start rules o waiting)
  | settle {r : Running σ} {rest : List (Running σ)}
      (first : earliest? b.running = some (r, rest)) : Step rules b (b.settle r rest)

/-- What comes next in a batch is one of its steps. -/
theorem step_of_next? (h : b.next? rules = some b') : Step rules b b' := by
  unfold Batch.next? at h
  split at h
  next => cases h
  next hw =>
    cases h
    exact .start hw
  next hr _ =>
    cases h
    exact .settle hr
  next hr hw =>
    split at h
    next =>
      cases h
      exact .start hw
    next =>
      cases h
      exact .settle hr

/-- A batch stops just when all its calls have ended. -/
theorem next?_eq_none_iff : b.next? rules = none ↔ b.waiting = [] ∧ b.running = [] := by
  constructor
  · intro h
    unfold Batch.next? at h
    split at h
    next hr hw => exact ⟨hw, earliest?_eq_none_iff.mp hr⟩
    next => cases h
    next => cases h
    next =>
      split at h
      next => cases h
      next => cases h
  · rintro ⟨hw, hr⟩
    unfold Batch.next?
    rw [hw, hr]
    rfl

/-- A batch is run step by step. -/
theorem run_of_some (h : b.next? rules = some b') : b.run rules = b'.run rules := by
  rw [Batch.run]
  split
  next c hc =>
    obtain rfl : c = b' := Option.some.inj (hc.symm.trans h)
    rfl
  next hn =>
    rw [h] at hn
    cases hn

/-- A batch that has stopped stays as it is. -/
theorem run_of_none (h : b.next? rules = none) : b.run rules = b := by
  rw [Batch.run]
  split
  next c hc =>
    rw [h] at hc
    cases hc
  next => rfl

/-! ## From the first event to the last -/

/-- What every event keeps holds in the end, when there is no call left. -/
theorem run_induction {P : Batch σ → Prop} (step : ∀ {b b' : Batch σ}, P b → Step rules b b' → P b')
    (b : Batch σ) (h : P b) :
    P (b.run rules) ∧ (b.run rules).waiting = [] ∧ (b.run rules).running = [] := by
  -- along the recursion of the run: an event, and then the run from there
  induction b using Batch.run.induct rules with
  | case1 b b' hb _ ih =>
    rw [run_of_some hb]
    exact ih (step h (step_of_next? hb))
  | case2 b hb =>
    rw [run_of_none hb]
    exact ⟨h, next?_eq_none_iff.mp hb⟩

/-- Two batches that keep in step from event to event end in step. -/
theorem run_relates {rules' : Rules τ} {R : Batch τ → Batch σ → Prop}
    (step : ∀ {b' : Batch τ} {b : Batch σ}, R b' b → Option.Rel R (b'.next? rules') (b.next? rules))
    (b' : Batch τ) (b : Batch σ) (h : R b' b) : R (b'.run rules') (b.run rules) := by
  induction b using Batch.run.induct rules generalizing b' with
  | case1 b c hb _ ih =>
    have hstep := step h
    rw [hb] at hstep
    cases hb' : b'.next? rules' with
    | none =>
      rw [hb'] at hstep
      cases hstep
    | some c' =>
      rw [hb'] at hstep
      rw [run_of_some hb, run_of_some hb']
      cases hstep with
      | some hc => exact ih c' hc
  | case2 b hb =>
    have hstep := step h
    rw [hb] at hstep
    cases hb' : b'.next? rules' with
    | none =>
      rw [run_of_none hb, run_of_none hb']
      exact h
    | some c' =>
      rw [hb'] at hstep
      cases hstep

end Rolebook.FanOut
