import Rolebook.Gateway
import Rolebook.Routine
import Rolebook.Store.Basic

/-!
# Calls to the store

Each call of a gateway as a routine on the store. A step looks at or changes one part of the store,
or more of them where they are held together; between two steps of a call another call may change
what the first one saw. The id of a new role and the time of a change are given from outside.

Two calls are not cut just where a backend has to cut them. A deletion takes the role away in one
step and its assignments in the next, though a backend may hold the roles over both: what it can do
then is among what two steps can do. And an update puts the new role under its own id, which is the
id that the old one was found under in every store that calls lead to (`Sound.roleKeyed`).

`Store.gateway` is the gateway whose calls run undisturbed.
-/

namespace Rolebook.Store

/-- A call to the store. -/
abbrev Call (α : Type) := Attempt (Routine Store) α

/-- A step that looks at the store and may fail. -/
def look {α : Type} (f : Store → Except Fault α) : Call α :=
  .mk (Routine.observe f)

/-- A step that changes the store or fails. -/
def alter {α : Type} (f : Store → Except Fault (α × Store)) : Call α :=
  .mk <| Routine.atomic fun s =>
    match f s with
    | .ok (a, s') => (.ok a, s')
    | .error fault => (.error fault, s)

/-- A role with the count of its members. -/
def withCount (r : Role) : Call Role := do
  let count ← look fun s => .ok (s.countMembers r.id)
  liftExcept (Role.ofInput { r.toInput with userCount := count })

/-- All roles as they are now, each with a count that is taken after. -/
def listRoles : Call (List Role) := do
  let roles ← look fun s => .ok s.roles.values
  roles.mapM withCount

def getRole (id : RoleId) : Call Role := do
  let r ← look fun s => s.role id
  withCount r

/-- A new role. Its permissions are looked for before anything is said about its name. -/
def createRole (fresh : RoleId) (now : Instant) (d : RoleDraft) : Call Role := do
  let permissions ← look fun s => s.resolve d.permissions
  let r ← liftExcept <| Role.ofInput {
    id := fresh
    name := d.name
    displayName := d.displayName
    description := d.description
    permissions := permissions
    createdAt := some now }
  alter fun s => (s.ensureUniqueName r.name none).map fun () => (r, s.putRole r)

/-- The role that an edit makes of a stored one. -/
def edited (r : Role) (now : Instant) (e : RoleEdit) (permissions : List Permission) :
    Except Fault Role :=
  Role.ofInput {
    id := r.id
    name := r.name.text
    displayName := e.displayName
    description := e.description
    permissions := permissions
    createdAt := r.createdAt
    updatedAt := some now }

/-- A role is edited in the very step in which it is found. -/
def updateRole (now : Instant) (id : RoleId) (e : RoleEdit) : Call Role := do
  let permissions ← look fun s => s.resolve e.permissions
  let r ← alter fun s => do
    let r ← s.role id
    r.ensureMutable
    -- what the role is now decides, not what a caller saw of it before
    let r' ← edited r now e permissions
    return (r', s.putRole r')
  withCount r

/-- A role goes, and then its assignments. -/
def deleteRole (id : RoleId) : Call Unit := do
  alter fun s => do
    let r ← s.role id
    r.ensureMutable
    return ((), s.dropRole id)
  -- a call that has found the role before can still add an assignment from here on
  alter fun s => .ok ((), s.dropAssignments id)

def listPermissions : Call (List Permission) :=
  look fun s => .ok s.permissions.values

def listUsers : Call (List User) :=
  look fun s => .ok s.users.values

/-- The members of a role, which has to be stored. -/
def listMembers (id : RoleId) : Call (List User) := do
  let _ ← look fun s => s.role id
  look fun s => .ok (s.members id)

/-- Fails unless the role is stored and calls for the user are let through. -/
def checkChange (id : RoleId) (u : UserId) : Call Unit := do
  let _ ← look fun s => s.role id
  look fun s => if u ∈ s.failing then .error (.injected u) else .ok ()

/-- Fails unless the user is stored; a user who loses a role need not be. -/
def checkUser : Operation → Call Unit
  | .assign u => look fun s => if s.users.contains u then .ok () else .error (.noUser u)
  | .unassign _ => pure ()

/-- One change to a role's members, after three looks at the store. -/
def change (id : RoleId) (o : Operation) : Call Unit := do
  checkChange id o.user
  checkUser o
  -- nothing looks again whether the role is still there
  alter fun s => .ok ((), s.applyChange id o)

/-- Changes one after the other: none of them takes time, so none is cut short. -/
def changeAll (id : RoleId) (operations : List Operation) : Routine Store (List Outcome) :=
  operations.mapM fun o => do
    let result ← (change id o).run
    return ⟨o, result⟩

/-- The calls to the store as routines, where a new role gets the id `fresh` and a change is made at
the time `now`. -/
def routines (fresh : RoleId) (now : Instant) : Gateway (Routine Store) where
  listRoles := listRoles
  getRole := getRole
  createRole := createRole fresh now
  updateRole := updateRole now
  deleteRole := deleteRole
  listPermissions := listPermissions
  listUsers := listUsers
  listMembers := listMembers
  change := change
  changeAll _ := changeAll

/-- The calls to the store, each from start to end. -/
def gateway (fresh : RoleId) (now : Instant) : Gateway (StateM Store) :=
  (routines fresh now).through Routine.run

end Rolebook.Store
