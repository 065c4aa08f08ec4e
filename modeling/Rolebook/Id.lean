import Rolebook.Uuid.Reader

/-!
# Ids

Tenants, users, roles and permissions are known by identifiers of four types that cannot be mixed
up. All four are written, read and ordered as the identifier they hold.
-/

namespace Rolebook

/-- What an id is the id of. -/
inductive IdKind where
  | tenant
  | user
  | role
  | permission
  deriving DecidableEq

/-- The words for a kind of id. -/
def IdKind.label : IdKind → String
  | .tenant => "tenant id"
  | .user => "user id"
  | .role => "role id"
  | .permission => "permission id"

/-- The id of a tenant, user, role or permission. -/
structure Id (kind : IdKind) where
  uuid : Uuid
  deriving DecidableEq

abbrev TenantId := Id .tenant
abbrev UserId := Id .user
abbrev RoleId := Id .role
abbrev PermissionId := Id .permission

namespace Id

variable {kind : IdKind}

@[ext] theorem ext {a b : Id kind} (h : a.uuid = b.uuid) : a = b := by
  cases a; cases b; cases h; rfl

instance : Ranked (Id kind) := ⟨fun a => a.uuid.toNat, fun h => ext (Uuid.ext h)⟩

/-- The rank of an id stays below the number of identifiers, which leaves room to rank pairs. -/
theorem rank_lt (a : Id kind) : rank a < Uuid.count := a.uuid.isLt

/-- The hyphenated form in small letters. -/
def text (a : Id kind) : String := a.uuid.text

instance : ToString (Id kind) := ⟨text⟩

/-- The id that a text spells, without white space around it. -/
def ofExactText? (s : String) : Option (Id kind) :=
  (Uuid.read? s).map Id.mk

end Id

end Rolebook
