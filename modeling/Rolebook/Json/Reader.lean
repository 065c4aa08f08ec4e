import Rolebook.Json.Token

/-!
# Reading JSON

Tokens are put together with a stack of the arrays and objects that are still open, so nesting has
no limit here. A text is one value with white space around it and nothing else.
-/

namespace Rolebook.Json

/-- An array or object still open, its items or members given last first. -/
inductive Open where
  | array (items : List Json)
  | object (members : List (Option String × Json)) (name : Option String)

/-- What may come next. -/
inductive Expected where
  /-- A value. -/
  | value
  /-- A value, or the end of an array just opened. -/
  | firstItem
  /-- The name of a member. -/
  | name
  /-- The name of a member, or the end of an object just opened. -/
  | firstName
  /-- The colon after a name. -/
  | colon (name : Option String)
  /-- A comma or the end of what is open. -/
  | separator
  /-- Nothing. -/
  | nothing (v : Json)

/-- A value finished inside what is open. -/
def finish (v : Json) : List Open → Expected × List Open
  | [] => (.nothing v, [])
  | .array items :: rest => (.separator, .array (v :: items) :: rest)
  | .object members name :: rest => (.separator, .object ((name, v) :: members) name :: rest)

/-- The start of a value. -/
def beginValue (token : Token) (opened : List Open) : Option (Expected × List Open) :=
  match token with
  | .null => some (finish .null opened)
  | .bool b => some (finish (.bool b) opened)
  | .number n => some (finish (.number n) opened)
  | .string text => some (finish (.string text) opened)
  | .openArray => some (.firstItem, .array [] :: opened)
  | .openObject => some (.firstName, .object [] none :: opened)
  | _ => none

/-- A separator or end after a value. -/
def afterValue (token : Token) : List Open → Option (Expected × List Open)
  | .array items :: rest =>
    match token with
    | .comma => some (.value, .array items :: rest)
    | .closeArray => some (finish (.array items.reverse) rest)
    | _ => none
  | .object members name :: rest =>
    match token with
    | .comma => some (.name, .object members name :: rest)
    | .closeObject => some (finish (.object members.reverse) rest)
    | _ => none
  | [] => none

/-- The member that gets `name` next. -/
def nameMember (name : Option String) : List Open → List Open
  | .object members _ :: rest => .object members name :: rest
  | opened => opened

/-- One token. -/
def stepToken (expected : Expected) (opened : List Open) (token : Token) :
    Option (Expected × List Open) :=
  match expected, token with
  | .value, token => beginValue token opened
  | .firstItem, .closeArray => afterValue .closeArray opened
  | .firstItem, token => beginValue token opened
  | .name, .string text => some (.colon text, opened)
  | .firstName, .closeObject => afterValue .closeObject opened
  | .firstName, .string text => some (.colon text, opened)
  | .colon name, .colon => some (.value, nameMember name opened)
  | .separator, token => afterValue token opened
  | _, _ => none

/-- The value that tokens spell after what is open. -/
def valueFrom (expected : Expected) (opened : List Open) : List Token → Option Json
  | [] =>
    match expected with
    | .nothing v => some v
    | _ => none
  | token :: tokens =>
    match stepToken expected opened token with
    | some (next, opened) => valueFrom next opened tokens
    | none => none

/-- The value that bytes spell. -/
def ofBytes? (bs : List UInt8) : Option Json :=
  (tokens? bs).bind (valueFrom .value [])

/-- The value that a text spells. -/
def read? (s : String) : Option Json :=
  ofBytes? (Text.Utf8.encode s.toList)

end Rolebook.Json
