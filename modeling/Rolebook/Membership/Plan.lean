import Rolebook.Membership.Operation
import Rolebook.Ordered.Set

/-!
# Plans

A plan says who gets a role and who loses it. `Plan.compute` is the plan that turns the current
members into the desired ones and does nothing else; `Plan.ofOperations` is the plan that does what
a list of operations does, where the last operation on a user counts.

`applyTo` is the meaning of a list of operations: the members it leaves of the members before.
-/

namespace Rolebook

/-- The members after one change. -/
def Operation.applyTo (o : Operation) (members : SortedSet UserId) : SortedSet UserId :=
  match o with
  | .assign u => members.insert u
  | .unassign u => members.erase u

/-- The members after a list of changes, first to last. -/
def applyAll (operations : List Operation) (members : SortedSet UserId) : SortedSet UserId :=
  operations.foldl (fun members o => o.applyTo members) members

/-- Changes to the members of one role. -/
structure Plan where
  role : RoleId
  toAdd : SortedSet UserId
  toRemove : SortedSet UserId
  deriving DecidableEq

namespace Plan

/-- The plan that changes nothing. -/
def empty (role : RoleId) : Plan := ⟨role, .empty, .empty⟩

/-- The plan that turns the current members into the desired ones. Both lists count as sets. -/
def compute (role : RoleId) (current desired : List UserId) : Plan :=
  let current := SortedSet.ofList current
  let desired := SortedSet.ofList desired
  ⟨role, desired.diff current, current.diff desired⟩

/-- The plan with one more operation, which overrides an earlier one on its user. -/
def add (p : Plan) : Operation → Plan
  | .assign u => { p with toAdd := p.toAdd.insert u, toRemove := p.toRemove.erase u }
  | .unassign u => { p with toAdd := p.toAdd.erase u, toRemove := p.toRemove.insert u }

/-- The plan that does what a list of operations does. -/
def ofOperations (role : RoleId) (operations : List Operation) : Plan :=
  operations.foldl add (empty role)

/-- The changes one by one: assignments first, and each by user. -/
def operations (p : Plan) : List Operation :=
  p.toAdd.toList.map .assign ++ p.toRemove.toList.map .unassign

/-- How many changes there are. -/
def size (p : Plan) : Nat := p.toAdd.size + p.toRemove.size

/-- Whether there is nothing to change. -/
def isEmpty (p : Plan) : Bool := p.toAdd.isEmpty && p.toRemove.isEmpty

/-- The size of a plan is the number of its operations. -/
theorem length_operations (p : Plan) : p.operations.length = p.size := by
  simp [operations, size, SortedSet.size]

end Plan

end Rolebook
