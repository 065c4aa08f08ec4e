import Rolebook.Assignment
import Rolebook.Ordered.Map
import Rolebook.Ordered.Set
import Rolebook.Role.Basic
import Rolebook.User

/-!
# The store

Roles, permissions, users and assignments kept in memory, and the users for whom membership calls
are made to fail. The user count kept in a role is not the one shown: `countMembers` is.
-/

namespace Rolebook

/-- A backend's state kept in memory. -/
structure Store where
  roles : SortedMap RoleId Role := .empty
  permissions : SortedMap PermissionId Permission := .empty
  users : SortedMap UserId User := .empty
  assignments : SortedSet Assignment := .empty
  /-- The users whose membership calls fail. -/
  failing : SortedSet UserId := .empty

namespace Store

/-- The store with nothing in it. -/
def empty : Store := {}

instance : Inhabited Store := ⟨empty⟩

/-- The role with this id. -/
def role (s : Store) (id : RoleId) : Except Fault Role :=
  match s.roles.find? id with
  | some r => .ok r
  | none => .error (.noRole id)

/-- How many users hold a role, or the largest count there is. -/
def countMembers (s : Store) (id : RoleId) : UInt32 :=
  UInt32.ofNat (min (UInt32.size - 1) (s.assignments.filter fun a => decide (a.role = id)).size)

/-- The users who hold a role. -/
def members (s : Store) (id : RoleId) : List User :=
  (s.assignments.filter fun a => decide (a.role = id)).toList.filterMap fun a =>
    s.users.find? a.user

/-- Fails if a role other than `except` goes by this name, letter case aside. -/
def ensureUniqueName (s : Store) (name : NonBlank) (except : Option RoleId) : Except Fault Unit :=
  if s.roles.values.any fun r =>
      decide (some r.id ≠ except) && Text.sameLetters r.name.text name.text then
    .error (.nameTaken name.text)
  else .ok ()

/-- The permissions with these ids. -/
def resolve (s : Store) (ids : List PermissionId) : Except Fault (List Permission) :=
  ids.mapM fun id =>
    match s.permissions.find? id with
    | some p => .ok p
    | none => .error (.unknownPermission id)

/-- The store with one more user, or another user under that id. -/
def insertUser (s : Store) (u : User) : Store :=
  { s with users := s.users.insert u.id u }

/-- The store with one more permission, or another permission under that id. -/
def insertPermission (s : Store) (p : Permission) : Store :=
  { s with permissions := s.permissions.insert p.id p }

/-- The store with one more role, or another role under that id. -/
def putRole (s : Store) (r : Role) : Store :=
  { s with roles := s.roles.insert r.id r }

/-- The store with a role put in as it is, unless its name is taken. -/
def insertRole (s : Store) (r : Role) : Except Fault Store :=
  (s.ensureUniqueName r.name (some r.id)).map fun () => s.putRole r

/-- The store without a role. Its assignments stay. -/
def dropRole (s : Store) (id : RoleId) : Store :=
  { s with roles := s.roles.erase id }

/-- The store without the assignments of a role. -/
def dropAssignments (s : Store) (id : RoleId) : Store :=
  { s with assignments := s.assignments.filter fun a => decide (a.role ≠ id) }

/-- The store after one change to a role's members. -/
def applyChange (s : Store) (id : RoleId) : Operation → Store
  | .assign u => { s with assignments := s.assignments.insert ⟨u, id⟩ }
  | .unassign u => { s with assignments := s.assignments.erase ⟨u, id⟩ }

/-- The store in which membership calls for a user fail. -/
def failFor (s : Store) (u : UserId) : Store :=
  { s with failing := s.failing.insert u }

/-- The store in which no calls are made to fail. -/
def clearFailures (s : Store) : Store :=
  { s with failing := .empty }

end Store

end Rolebook
