import Rolebook.Membership.Report
import Rolebook.Role.Basic
import Rolebook.User

/-!
# Gateways

A gateway is what stands between role administration and the backend that keeps roles, permissions,
users and memberships. `m` is the kind of computation that a call is: a change of the backend's
state, or an exchange over a network. A call answers or fails, and says nothing else.
-/

namespace Rolebook

/-- A computation that can fail. -/
abbrev Attempt (m : Type → Type) (α : Type) := ExceptT Fault m α

/-- What a new role is to be. -/
structure RoleDraft where
  name : String
  displayName : Option String := none
  description : Option String := none
  permissions : List PermissionId := []
  deriving DecidableEq

/-- What a role is to become. -/
structure RoleEdit where
  displayName : Option String := none
  description : Option String := none
  permissions : List PermissionId := []
  deriving DecidableEq

/-- An optional text in normal form: trimmed, and absent when blank. -/
def normalText (o : Option String) : Option String :=
  (NonBlank.ofOption o).map (·.text)

/-- An edit in normal form: texts trimmed, and no permission twice. -/
def RoleEdit.normal (e : RoleEdit) : RoleEdit where
  displayName := normalText e.displayName
  description := normalText e.description
  permissions := keepFirst id e.permissions

/-- A draft in normal form, under a given name. -/
def RoleDraft.normal (d : RoleDraft) (name : NonBlank) : RoleDraft where
  name := name.text
  displayName := normalText d.displayName
  description := normalText d.description
  permissions := keepFirst id d.permissions

/-- How a batch of membership calls is carried out. -/
structure Limits where
  /-- How many milliseconds a call may take. -/
  timeout : Nat := 10000
  /-- How many calls may be under way at once. -/
  concurrency : Nat := 8
  deriving DecidableEq

/-- The limits as they are applied: at least one call is let through at a time. -/
def Limits.effective (l : Limits) : Limits :=
  { l with concurrency := max 1 l.concurrency }

/-- The calls a backend takes. -/
structure Gateway (m : Type → Type) where
  listRoles : Attempt m (List Role)
  getRole : RoleId → Attempt m Role
  createRole : RoleDraft → Attempt m Role
  updateRole : RoleId → RoleEdit → Attempt m Role
  deleteRole : RoleId → Attempt m Unit
  listPermissions : Attempt m (List Permission)
  listUsers : Attempt m (List User)
  /-- The users who hold a role. -/
  listMembers : RoleId → Attempt m (List User)
  /-- One change to a role's members. -/
  change : RoleId → Operation → Attempt m Unit
  /-- A batch of changes, each by a call of its own, within limits. -/
  changeAll : Limits → RoleId → List Operation → m (List Outcome)

/-- A call of one thing at a time, with what it carries. -/
inductive Gateway.Call where
  | listRoles
  | getRole (id : RoleId)
  | createRole (draft : RoleDraft)
  | updateRole (id : RoleId) (edit : RoleEdit)
  | deleteRole (id : RoleId)
  | listPermissions
  | listUsers
  | members (id : RoleId)
  | change (id : RoleId) (operation : Operation)
  deriving DecidableEq

/-- The gateway whose calls are those of `g` carried over to another kind of computation. -/
def Gateway.through {m n : Type → Type} (f : ∀ {α : Type}, m α → n α) (g : Gateway m) :
    Gateway n where
  listRoles := .mk (f g.listRoles.run)
  getRole id := .mk (f (g.getRole id).run)
  createRole d := .mk (f (g.createRole d).run)
  updateRole id e := .mk (f (g.updateRole id e).run)
  deleteRole id := .mk (f (g.deleteRole id).run)
  listPermissions := .mk (f g.listPermissions.run)
  listUsers := .mk (f g.listUsers.run)
  listMembers id := .mk (f (g.listMembers id).run)
  change id o := .mk (f (g.change id o).run)
  changeAll l id os := f (g.changeAll l id os)

end Rolebook
