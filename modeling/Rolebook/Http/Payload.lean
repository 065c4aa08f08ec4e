import Rolebook.Gateway
import Rolebook.Json.Reader
import Rolebook.Role.Json
import Rolebook.Text.Body

/-!
# Payloads

The bodies of messages. Ids may go by the short name `id` and resources by `resource_type`. A list
is an array, or an object with the array under `items`; because it is looked at twice, a list has to
be free of what cannot be kept, down to the parts that nobody looks at.
-/

namespace Rolebook.Http.Payload

/-! ## What is sent -/

/-- The fields of an edit. -/
def editMembers (displayName description : Option String) (permissions : List PermissionId) :
    List (String × Json) :=
  [("display_name", .optional .ofText displayName), ("description", .optional .ofText description),
    ("permission_ids", .array (permissions.map Id.toJson))]

/-- The body that asks for a new role. -/
def ofDraft (d : RoleDraft) : Json :=
  .record (("name", .ofText d.name) :: editMembers d.displayName d.description d.permissions)

/-- The body that asks for a change of a role. -/
def ofEdit (e : RoleEdit) : Json :=
  .record (editMembers e.displayName e.description e.permissions)

/-! ## What is received -/

/-- A permission. Its description may be missing. -/
def permission? (v : Json) : Option Permission :=
  let fields : List Json.Field :=
    [["permission_id", "id"], ["resource", "resource_type"], ["action"], ["description"]]
  match Json.slots? fields v with
  | some [id, resource, action, description] => do
    let description ← Json.optionally Json.text? description
    return {
      id := ← Json.required Id.ofJson? id
      resource := ← Json.required Category.ofJson? resource
      action := ← Json.required Action.ofJson? action
      description := description.getD "" }
  | _ => none

/-- What a role is made from. -/
def roleInput? : Json → Option RoleInput :=
  RoleInput.ofJsonWith? ["role_id", "id"] permission?

/-- A user. -/
def user? : Json → Option User :=
  User.ofJsonWith? ["user_id", "id"]

/-- The array under `items` in an object, or the array that a value is. -/
def items? (v : Json) : Option Json :=
  match Json.objectSlots? [["items"]] v with
  | some [some items] => some items
  -- an object without items, or with two of them, then fails as an array
  | _ => some v

/-- A list. -/
def list? {α : Type} (decode : Json → Option α) (v : Json) : Option (List α) :=
  if v.isKept then (items? v).bind (Json.list? decode) else none

/-! ## Complaints -/

/-- The words of an error body, if it is a record of them. -/
def words? (v : Json) : Option String :=
  match Json.slots? [["message"], ["error"]] v with
  | some [message, error] => do
    let message ← Json.optionally Json.text? message
    let error ← Json.optionally Json.text? error
    message.or error
  | _ => none

/-- What a body says about an error: the words in it, or else all of it. A body that breaks off says
nothing. The body is taken for UTF-8 unless it starts with a byte order mark: a server that declares
another character set for its errors is not considered. -/
def complaint (body : Option (List UInt8)) : String :=
  let text := body.elim "" Text.Body.decode
  ((Json.read? text).bind words?).getD text

end Rolebook.Http.Payload
