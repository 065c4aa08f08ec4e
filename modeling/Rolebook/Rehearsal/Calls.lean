import Rolebook.Membership.FanOut
import Rolebook.Rehearsal.Basic

/-!
# Calls in a rehearsal

Every call is noted first. Then the failure arranged for it is reported, if there is one, and
otherwise the call does its work. Membership calls follow the first behaviour that applies to them.
-/

namespace Rolebook.Rehearsal

/-- A call that is noted and then fails as arranged or does its work. -/
def answering {α : Type} (port : Port) (c : Gateway.Call)
    (work : Rehearsal → Except Fault α × Rehearsal) : Attempt (StateM Rehearsal) α :=
  .mk fun r =>
    let r := r.note 0 c
    match r.fault? port with
    | some fault => (.error fault, r)
    | none => work r

/-- The id of the `n`th role created. -/
def freshId (n : Nat) : RoleId :=
  ⟨⟨(0xF000 + n) % Uuid.count, Nat.mod_lt _ (by decide)⟩⟩

/-- Work that ends in a changed backend or in a failure. -/
def changing {α : Type} (r : Rehearsal) (result : Except Fault (α × Rehearsal)) :
    Except Fault α × Rehearsal :=
  match result with
  | .ok (a, r') => (.ok a, r')
  | .error fault => (.error fault, r)

/-- A role that is in the list. -/
def findRole (r : Rehearsal) (id : RoleId) : Except Fault Role :=
  match r.roles.find? fun role => decide (role.id = id) with
  | some role => .ok role
  | none => .error (.noRole id)

def createRole (d : RoleDraft) (r : Rehearsal) : Except Fault Role × Rehearsal :=
  let r := { r with created := r.created + 1 }
  changing r do
    let role ← Role.ofInput {
      id := freshId r.created
      name := d.name
      displayName := d.displayName
      description := d.description }
    return (role, { r with roles := r.roles ++ [role] })

def updateRole (id : RoleId) (e : RoleEdit) (r : Rehearsal) : Except Fault Role × Rehearsal :=
  changing r do
    let role ← findRole r id
    let role ← Role.ofInput
      { role.toInput with displayName := e.displayName, description := e.description }
    let roles := r.roles.map fun other => if other.id = id then role else other
    return (role, { r with roles := roles })

def deleteRole (id : RoleId) (r : Rehearsal) : Except Fault Unit × Rehearsal :=
  (.ok (), { r with roles := r.roles.filter fun role => decide (role.id ≠ id) })

def listMembers (id : RoleId) (r : Rehearsal) : Except Fault (List User) × Rehearsal :=
  let r := { r with reads := r.reads + 1 }
  if r.membersFailFrom.any (· ≤ r.reads) then
    (.error (.reported .internal "member listing unavailable"), r)
  else (.ok ((r.holders id).map r.user), r)

/-- The end of a membership call: the given failure, or the change. -/
def finish (id : RoleId) (o : Operation) (fault : Option Fault) :
    StateM Rehearsal (Except Fault Unit) :=
  fun r =>
    match fault with
    | some fault => (.error fault, r)
    | none => (.ok (), r.applyChange id o)

/-- The start of a membership call. -/
def begin (id : RoleId) (later : Nat) (o : Operation) : StateM Rehearsal (Pending Rehearsal) :=
  fun r =>
    let r := r.note later (.change id o)
    match r.fault? (.ofOperation o) with
    | some fault => (⟨0, finish id o (some fault)⟩, r)
    | none =>
      -- a behaviour is used up when the call begins, however it ends
      match takeBehaviour? o r.behaviours with
      | some (b, rest) => (⟨b.delay, finish id o b.fault⟩, { r with behaviours := rest })
      | none => (⟨0, finish id o none⟩, r)

/-- A membership call outside a batch, which takes as long as it takes. -/
def change (id : RoleId) (o : Operation) : Attempt (StateM Rehearsal) Unit :=
  .mk fun r =>
    let begun := (begin id 0 o).run r
    begun.1.finish.run (begun.2.elapse begun.1.delay)

/-- The gateway of a scripted backend. -/
def gateway : Gateway (StateM Rehearsal) where
  listRoles := answering .listRoles .listRoles fun r => (.ok r.roles, r)
  getRole id := answering .getRole (.getRole id) fun r => (findRole r id, r)
  createRole d := answering .createRole (.createRole d) (createRole d)
  updateRole id e := answering .updateRole (.updateRole id e) (updateRole id e)
  deleteRole id := answering .deleteRole (.deleteRole id) (deleteRole id)
  listPermissions := answering .listPermissions .listPermissions fun r => (.ok r.permissions, r)
  listUsers := answering .listUsers .listUsers fun r => (.ok r.users, r)
  listMembers id := answering .members (.members id) (listMembers id)
  change := change
  changeAll := FanOut.changeAll begin elapse

end Rolebook.Rehearsal
