import Rolebook.Permission.Action
import Rolebook.Permission.Category

/-!
# Permissions

A permission allows one action on one category of resources. Its key is the category and the action
with a colon between them.
-/

namespace Rolebook

/-- An id as JSON. -/
def Id.toJson {kind : IdKind} (a : Id kind) : Json := .ofText a.text

/-- An id from JSON, exactly as it is spelled. -/
def Id.ofJson? {kind : IdKind} (v : Json) : Option (Id kind) :=
  v.text?.bind Id.ofExactText?

/-- A name as JSON. -/
def NonBlank.toJson (a : NonBlank) : Json := .ofText a.text

/-- A name from JSON. -/
def NonBlank.ofJson? (v : Json) : Option NonBlank :=
  v.text?.bind NonBlank.ofText?

/-- The right to do one thing to one category of resources. -/
structure Permission where
  id : PermissionId
  resource : Category
  action : Action
  description : String
  deriving DecidableEq

namespace Permission

/-- The category and the action. -/
def key (p : Permission) : String := s!"{p.resource}:{p.action}"

/-- A permission as JSON. -/
def toJson (p : Permission) : Json :=
  .record [("permission_id", p.id.toJson), ("resource", p.resource.toJson),
    ("action", p.action.toJson), ("description", .ofText p.description)]

/-- The fields of a permission. -/
def fields : List Json.Field := [["permission_id"], ["resource"], ["action"], ["description"]]

/-- A permission from JSON. -/
def ofJson? (v : Json) : Option Permission :=
  match Json.slots? fields v with
  | some [id, resource, action, description] => do
    return {
      id := ← Json.required Id.ofJson? id
      resource := ← Json.required Category.ofJson? resource
      action := ← Json.required Action.ofJson? action
      description := ← Json.defaulted Json.text? "" description }
  | _ => none

end Permission

end Rolebook
