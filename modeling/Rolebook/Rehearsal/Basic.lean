import Rolebook.Gateway
import Rolebook.Ordered.Map

/-!
# Rehearsals

A backend that follows a script, so that an administrator can be watched at work: calls can be made
to fail, membership calls can be made to take time, and every call is noted with the time at which
it came in. Time is counted in milliseconds and passes only as the script says.
-/

namespace Rolebook

/-- A kind of call, for which a failure can be arranged. -/
inductive Rehearsal.Port where
  | listRoles
  | getRole
  | createRole
  | updateRole
  | deleteRole
  | listPermissions
  | listUsers
  | members
  | assign
  | unassign
  deriving DecidableEq

/-- The kind of call that an operation is carried out by. -/
def Rehearsal.Port.ofOperation : Operation → Port
  | .assign _ => .assign
  | .unassign _ => .unassign

/-- What a membership call does instead of succeeding at once. -/
structure Rehearsal.Behaviour where
  user : UserId
  /-- Which operation it is about; both, if none is given. -/
  port : Option Rehearsal.Port := none
  /-- How many times it still applies; always, if no number is given. -/
  times : Option Nat := none
  delay : Nat := 0
  /-- How the call ends; in success, if no failure is given. -/
  fault : Option Fault := none
  deriving DecidableEq

/-- A scripted backend. -/
structure Rehearsal where
  roles : List Role := []
  permissions : List Permission := []
  users : List User := []
  /-- Who holds a role, in the order in which they came to hold it. -/
  members : SortedMap RoleId (List UserId) := .empty
  behaviours : List Rehearsal.Behaviour := []
  /-- The calls that fail at once. -/
  faults : List (Rehearsal.Port × Fault) := []
  /-- The number of the first reading of members that fails. -/
  membersFailFrom : Option Nat := none
  /-- How many roles have been created. -/
  created : Nat := 0
  /-- How many times members have been read. -/
  reads : Nat := 0
  clock : Nat := 0
  /-- The calls so far and when they came in, the last one first. -/
  calls : List (Nat × Gateway.Call) := []

namespace Rehearsal

/-- The backend after a call has come in `later` milliseconds from now. -/
def note (r : Rehearsal) (later : Nat) (c : Gateway.Call) : Rehearsal :=
  { r with calls := (r.clock + later, c) :: r.calls }

/-- The failure arranged for a kind of call. -/
def fault? (r : Rehearsal) (port : Port) : Option Fault :=
  r.faults.lookup port

/-- The backend some milliseconds later. -/
def elapse (time : Nat) (r : Rehearsal) : Rehearsal :=
  { r with clock := r.clock + time }

/-- The users who hold a role, in order. -/
def holders (r : Rehearsal) (id : RoleId) : List UserId :=
  (r.members.find? id).getD []

/-- The entry of a user, or one with a name made up from the id. -/
def user (r : Rehearsal) (id : UserId) : User :=
  match r.users.find? fun u => decide (u.id = id) with
  | some u => u
  | none => { id := id, username := s!"user-{id}", displayName := none, email := none }

/-- The backend after one change to a role's members: a user who comes to hold the role comes last.
-/
def applyChange (r : Rehearsal) (id : RoleId) (o : Operation) : Rehearsal :=
  let others := (r.holders id).filter fun u => decide (u ≠ o.user)
  let holders := match o with
    | .assign u => others ++ [u]
    | .unassign _ => others
  { r with members := r.members.insert id holders }

/-- Whether a behaviour is about an operation and still applies. -/
def Behaviour.applies (b : Behaviour) (o : Operation) : Bool :=
  decide (b.user = o.user) && b.port.all (fun p => decide (p = .ofOperation o)) && b.times.all (0 < ·)

/-- The first behaviour that applies to an operation, and the behaviours left after it did. -/
def takeBehaviour? (o : Operation) : List Behaviour → Option (Behaviour × List Behaviour)
  | [] => none
  | b :: bs =>
    if Behaviour.applies b o then some (b, { b with times := b.times.map (· - 1) } :: bs)
    else (takeBehaviour? o bs).map fun (found, rest) => (found, b :: rest)

end Rehearsal

end Rolebook
