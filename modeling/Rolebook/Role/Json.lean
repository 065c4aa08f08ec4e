import Rolebook.Instant.Reader
import Rolebook.Role.Basic

/-!
# Roles as JSON

A role is written with all its fields, `null` for the absent ones. It is read as an input and then
made a role, so what is read is always in normal form.
-/

namespace Rolebook

/-- An instant as JSON. -/
def Instant.toJson (t : Instant) : Json := .ofText t.text

/-- An instant from JSON. -/
def Instant.ofJson? (v : Json) : Option Instant :=
  v.text?.bind Instant.read?

/-- An input from JSON whose id goes by one of `idNames` and whose permissions are read by
`permission`. -/
def RoleInput.ofJsonWith? (idNames : Json.Field) (permission : Json → Option Permission)
    (v : Json) : Option RoleInput :=
  let fields : List Json.Field :=
    [idNames, ["name"], ["display_name"], ["description"], ["is_system"], ["permissions"],
      ["user_count"], ["created_at"], ["updated_at"]]
  match Json.slots? fields v with
  | some [id, name, displayName, description, isSystem, permissions, userCount, createdAt,
      updatedAt] => do
    return {
      id := ← Json.required Id.ofJson? id
      name := ← Json.required Json.text? name
      displayName := ← Json.optionally Json.text? displayName
      description := ← Json.optionally Json.text? description
      isSystem := ← Json.defaulted Json.bool? false isSystem
      permissions := ← Json.defaulted (Json.list? permission) [] permissions
      userCount := ← Json.defaulted Json.uint32? 0 userCount
      createdAt := ← Json.optionally Instant.ofJson? createdAt
      updatedAt := ← Json.optionally Instant.ofJson? updatedAt }
  | _ => none

/-- An input from JSON. -/
def RoleInput.ofJson? : Json → Option RoleInput :=
  RoleInput.ofJsonWith? ["role_id"] Permission.ofJson?

namespace Role

/-- A role as JSON. -/
def toJson (r : Role) : Json :=
  .record [("role_id", r.id.toJson), ("name", r.name.toJson),
    ("display_name", r.displayName.toJson),
    ("description", .optional NonBlank.toJson r.description), ("is_system", .bool r.isSystem),
    ("permissions", .array (r.permissions.map Permission.toJson)),
    ("user_count", .ofNat r.userCount.toNat),
    ("created_at", .optional Instant.toJson r.createdAt),
    ("updated_at", .optional Instant.toJson r.updatedAt)]

/-- A role from JSON. -/
def ofJson? (v : Json) : Option Role :=
  (RoleInput.ofJson? v).bind fun input => (ofInput input).toOption

end Role

end Rolebook
