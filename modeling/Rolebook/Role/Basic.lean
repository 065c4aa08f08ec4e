import Rolebook.Instant.Basic
import Rolebook.Permission.Basic

/-!
# Roles

A role bundles permissions under a name. The type keeps what every role keeps: its texts are
trimmed, its names are not blank, and no permission is listed twice. `Role.ofInput` brings any
input into that form and fails only for a blank name.
-/

namespace Rolebook

/-- The elements of a list whose key has not come before. -/
def keepFirst {α κ : Type} [DecidableEq κ] (key : α → κ) : List α → List α
  | [] => []
  | x :: xs => x :: (keepFirst key xs).filter fun y => key y != key x

/-- Where only the first value of each key is kept, no key is left twice. -/
theorem nodup_keepFirst {α κ : Type} [DecidableEq κ] (key : α → κ) (xs : List α) :
    ((keepFirst key xs).map key).Nodup := by
  induction xs with
  | nil => exact List.nodup_nil
  | cons x xs ih =>
    rw [keepFirst, List.map_cons, List.nodup_cons]
    refine ⟨?_, ih.sublist (List.filter_sublist.map key)⟩
    simp

/-- What a role is made from. -/
structure RoleInput where
  id : RoleId
  name : String
  displayName : Option String := none
  description : Option String := none
  isSystem : Bool := false
  permissions : List Permission := []
  userCount : UInt32 := 0
  createdAt : Option Instant := none
  updatedAt : Option Instant := none
  deriving DecidableEq

/-- A named bundle of permissions. -/
structure Role where
  id : RoleId
  name : NonBlank
  displayName : NonBlank
  description : Option NonBlank
  /-- A system role cannot be changed or deleted. -/
  isSystem : Bool
  permissions : List Permission
  /-- How many users hold the role. -/
  userCount : UInt32
  createdAt : Option Instant
  updatedAt : Option Instant
  distinct : (permissions.map (·.id)).Nodup
  deriving DecidableEq

namespace Role

/-- The role with a given name that an input describes. -/
def named (name : NonBlank) (input : RoleInput) : Role where
  id := input.id
  name := name
  displayName := (NonBlank.ofOption input.displayName).getD name
  description := NonBlank.ofOption input.description
  isSystem := input.isSystem
  permissions := keepFirst (·.id) input.permissions
  userCount := input.userCount
  createdAt := input.createdAt
  updatedAt := input.updatedAt
  distinct := nodup_keepFirst _ _

/-- The role that an input describes. -/
def ofInput (input : RoleInput) : Except Fault Role :=
  (NonBlank.read input.name).map fun name => named name input

/-- The input that a role is made from again. -/
def toInput (r : Role) : RoleInput where
  id := r.id
  name := r.name.text
  displayName := some r.displayName.text
  description := r.description.map (·.text)
  isSystem := r.isSystem
  permissions := r.permissions
  userCount := r.userCount
  createdAt := r.createdAt
  updatedAt := r.updatedAt

/-- Nothing, or why the role cannot be changed. -/
def ensureMutable (r : Role) : Except Fault Unit :=
  if r.isSystem then .error (.systemRole r.name.text) else .ok ()

end Role

end Rolebook
