import Rolebook.Fault
import Rolebook.Json.Record

/-!
# Resource categories

What a permission is about: a token of small letters, digits, `_`, `-` and `.`. Capital letters are
made small and white space around is dropped when a token is read, so a category has one spelling.
-/

namespace Rolebook

/-- Whether a category may hold this character. -/
def isCategoryChar (c : Char) : Bool :=
  ('a' ≤ c && c ≤ 'z') || ('0' ≤ c && c ≤ '9') || c == '_' || c == '-' || c == '.'

/-- A category of resources. -/
structure Category where
  text : String
  ne_empty : text ≠ ""
  allowed : text.toList.all isCategoryChar = true

namespace Category

@[ext] theorem ext {a b : Category} (h : a.text = b.text) : a = b := by
  cases a; cases b; cases h; rfl

instance : DecidableEq Category := fun a b =>
  decidable_of_iff (a.text = b.text) ⟨ext, congrArg text⟩

instance : ToString Category := ⟨text⟩

/-- The category that a text names. -/
def ofText (s : String) : Except Fault Category :=
  let token := Text.lower (Text.trim s)
  if hne : token = "" then .error .emptyCategory
  else if hall : token.toList.all isCategoryChar = true then .ok ⟨token, hne, hall⟩
  else
    match token.toList.find? fun c => !isCategoryChar c with
    | some c => .error (.categoryCharacter token c)
    | none => .error .emptyCategory

/-- A category as JSON. -/
def toJson (c : Category) : Json := .ofText c.text

/-- A category from JSON. -/
def ofJson? (v : Json) : Option Category :=
  v.text?.bind fun s => (ofText s).toOption

end Category

end Rolebook
