import Rolebook.Gateway
import Rolebook.Text.Order

/-!
# Administering roles

What an administrator does with roles, permissions and users, over any gateway. Lists are sorted,
what is sent is in normal form, and a system role is refused before anything is sent.
-/

namespace Rolebook

/-- Whoever administers roles through a gateway. -/
structure Administrator (m : Type → Type) where
  gateway : Gateway m
  limits : Limits

namespace Administrator

variable {m : Type → Type} [Monad m]

/-- The order of permissions: by resource, then by action. -/
def permissionAtMost (p q : Permission) : Bool :=
  if p.resource.text = q.resource.text then Ranked.atMost p.action q.action
  else Text.atMost p.resource.text q.resource.text

/-- All roles, by name. -/
def listRoles (a : Administrator m) : Attempt m (List Role) := do
  let roles ← a.gateway.listRoles
  return roles.mergeSort fun r s => Text.atMost r.name.text s.name.text

/-- All permissions, by resource and action. -/
def listPermissions (a : Administrator m) : Attempt m (List Permission) := do
  let permissions ← a.gateway.listPermissions
  return permissions.mergeSort permissionAtMost

/-- All users, by login name. -/
def listUsers (a : Administrator m) : Attempt m (List User) := do
  let users ← a.gateway.listUsers
  return users.mergeSort fun u v => Text.atMost u.username v.username

/-- The role in a list that goes by a name, letter case aside. -/
def roleNamed (name : String) (roles : List Role) : Except Fault Role :=
  match roles.find? fun r => Text.sameLetters r.name.text name with
  | some r => .ok r
  | none => .error (.noRoleNamed name)

/-- The role that a text refers to, by its id or else by its name. -/
def findRole (a : Administrator m) (reference : String) : Attempt m Role :=
  match (Id.read reference : Except Fault RoleId) with
  | .ok id => a.gateway.getRole id
  | .error _ => do
    let roles ← a.gateway.listRoles
    liftExcept (roleNamed (Text.trim reference) roles)

/-- Creates a custom role. -/
def createRole (a : Administrator m) (draft : RoleDraft) : Attempt m Role :=
  match NonBlank.read draft.name with
  | .ok name => a.gateway.createRole (draft.normal name)
  | .error fault => throw fault

/-- Fails unless there is a role with this id that can be changed. -/
def requireMutable (a : Administrator m) (id : RoleId) : Attempt m Unit := do
  let role ← a.gateway.getRole id
  liftExcept role.ensureMutable

/-- Changes a custom role. -/
def updateRole (a : Administrator m) (id : RoleId) (edit : RoleEdit) : Attempt m Role := do
  a.requireMutable id
  a.gateway.updateRole id edit.normal

/-- Deletes a custom role. -/
def deleteRole (a : Administrator m) (id : RoleId) : Attempt m Unit := do
  a.requireMutable id
  a.gateway.deleteRole id

end Administrator

end Rolebook
