import Rolebook.Assignment
import Rolebook.Permission.Basic

/-!
# Users

A user as role administration sees one. A user is called by the display name, or by the login name
when the display name is absent or blank.
-/

namespace Rolebook

/-- A user who can hold roles. -/
structure User where
  id : UserId
  username : String
  displayName : Option String
  email : Option String
  deriving DecidableEq

namespace User

/-- What a user is called. -/
def label (u : User) : String :=
  match u.displayName.bind NonBlank.ofText? with
  | some name => name.text
  | none => u.username

/-- A user as JSON. -/
def toJson (u : User) : Json :=
  .record [("user_id", u.id.toJson), ("username", .ofText u.username),
    ("display_name", .optional .ofText u.displayName), ("email", .optional .ofText u.email)]

/-- A user from JSON whose id goes by one of `idNames`. -/
def ofJsonWith? (idNames : Json.Field) (v : Json) : Option User :=
  match Json.slots? [idNames, ["username"], ["display_name"], ["email"]] v with
  | some [id, username, displayName, email] => do
    return {
      id := ← Json.required Id.ofJson? id
      username := ← Json.required Json.text? username
      displayName := ← Json.optionally Json.text? displayName
      email := ← Json.optionally Json.text? email }
  | _ => none

/-- A user from JSON. -/
def ofJson? : Json → Option User := ofJsonWith? ["user_id"]

end User

/-- An assignment as JSON. -/
def Assignment.toJson (a : Assignment) : Json :=
  .record [("user_id", a.user.toJson), ("role_id", a.role.toJson)]

/-- An assignment from JSON. -/
def Assignment.ofJson? (v : Json) : Option Assignment :=
  match Json.slots? [["user_id"], ["role_id"]] v with
  | some [user, role] => do
    return { user := ← Json.required Id.ofJson? user, role := ← Json.required Id.ofJson? role }
  | _ => none

end Rolebook
