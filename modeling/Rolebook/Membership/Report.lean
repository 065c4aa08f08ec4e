import Rolebook.Fault
import Rolebook.Membership.Plan

/-!
# Reports

What became of a batch of operations. The order in which the operations came to an end does not
show: succeeded and failed operations are listed in their own order.
-/

namespace Rolebook

/-- An operation that failed, and why. -/
structure Failure where
  operation : Operation
  fault : Fault
  deriving DecidableEq

/-- What became of one operation. -/
structure Outcome where
  operation : Operation
  result : Except Fault Unit

namespace Outcome

/-- The operation, if it succeeded. -/
def success? (o : Outcome) : Option Operation :=
  match o.result with
  | .ok () => some o.operation
  | .error _ => none

/-- The failure, if it failed. -/
def failure? (o : Outcome) : Option Failure :=
  match o.result with
  | .ok () => none
  | .error fault => some ⟨o.operation, fault⟩

end Outcome

/-- How a batch went as a whole. -/
inductive Status where
  /-- Nothing failed. -/
  | succeeded
  /-- Something failed, and not everything. -/
  | partiallySucceeded
  /-- Everything failed, and there was something. -/
  | failed
  deriving DecidableEq

namespace Status

/-- The status of a batch with so many successes and failures. -/
def ofCounts : Nat → Nat → Status
  | _, 0 => succeeded
  | 0, _ => failed
  | _, _ => partiallySucceeded

/-- The word for a status. -/
def word : Status → String
  | succeeded => "succeeded"
  | partiallySucceeded => "partially_succeeded"
  | failed => "failed"

end Status

/-- What became of a batch. -/
structure Report where
  role : RoleId
  succeeded : List Operation
  failures : List Failure
  deriving DecidableEq

/-- Why a batch or a save came to nothing. -/
inductive BatchFault where
  /-- There was something to do, and none of it succeeded. -/
  | allFailed (role : RoleId) (count : Nat) (failures : List Failure)
  /-- A call outside the batch failed. -/
  | call (fault : Fault)
  deriving DecidableEq

/-- The words for a batch that came to nothing. -/
def BatchFault.message : BatchFault → String
  | allFailed role count _ =>
    s!"all {count} role membership operations failed for role '{role}'"
  | call fault => fault.message

namespace Report

/-- The report on a batch of nothing. -/
def empty (role : RoleId) : Report := ⟨role, [], []⟩

/-- The report on a batch, from its outcomes in any order. -/
def ofOutcomes (role : RoleId) (outcomes : List Outcome) : Report where
  role := role
  succeeded := (outcomes.filterMap Outcome.success?).mergeSort Ranked.atMost
  failures := (outcomes.filterMap Outcome.failure?).mergeSort fun a b =>
    Ranked.atMost a.operation b.operation

/-- How many operations succeeded. -/
def successCount (r : Report) : Nat := r.succeeded.length

/-- How many operations failed. -/
def failureCount (r : Report) : Nat := r.failures.length

/-- How many operations there were. -/
def attempted (r : Report) : Nat := r.successCount + r.failureCount

/-- How the batch went as a whole. -/
def status (r : Report) : Status := .ofCounts r.successCount r.failureCount

/-- The plan of the operations that failed. -/
def retryPlan (r : Report) : Plan :=
  .ofOperations r.role (r.failures.map (·.operation))

/-- The report itself, unless everything failed. -/
def result (r : Report) : Except BatchFault Report :=
  match r.status with
  | .failed => .error (.allFailed r.role r.failureCount r.failures)
  | .succeeded | .partiallySucceeded => .ok r

/-- The report on a batch in which everything failed. -/
def ofFailures (role : RoleId) (failures : List Failure) : Report := ⟨role, [], failures⟩

end Report

end Rolebook
