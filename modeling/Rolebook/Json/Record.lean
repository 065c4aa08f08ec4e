import Rolebook.Json.Basic

/-!
# Reading records

A record is read from an object, whatever the order of its members, or from an array of its fields
in the order they are declared. In an object, members that no field is named after are skipped, a
field may go by several names, and a field given twice is refused. In an array, the last fields may
be missing, and there may be no item too many.

`slots?` does this once for all records: it gives the value of each field, or none, in the order the
fields are declared. What a missing field means is for the field to say: `required`, `optional` and
`defaulted` are the three answers.
-/

namespace Rolebook.Json

/-- A field, by the names it goes by. -/
abbrev Field := List String

/-- The values of a field among the members of an object. -/
def valuesOf (field : Field) (members : List (Option String × Json)) : List Json :=
  members.filterMap fun (name, value) =>
    match name with
    | some n => if n ∈ field then some value else none
    | none => none

/-- The value of a field among the members of an object, unless the field is given twice. -/
def memberSlot? (members : List (Option String × Json)) (field : Field) : Option (Option Json) :=
  match valuesOf field members with
  | [] => some none
  | [v] => some (some v)
  | _ => none

/-- The values of an object's fields. Every name must denote a text. -/
def objectSlots? (fields : List Field) : Json → Option (List (Option Json))
  | .object members =>
    if members.all fun m => m.1.isSome then fields.mapM (memberSlot? members) else none
  | _ => none

/-- The values of a record's fields. -/
def slots? (fields : List Field) : Json → Option (List (Option Json))
  | .array items =>
    if items.length ≤ fields.length then
      some (items.map some ++ List.replicate (fields.length - items.length) none)
    else none
  | v => objectSlots? fields v

/-- A field that must be there. -/
def required {α : Type} (decode : Json → Option α) : Option Json → Option α
  | some v => decode v
  | none => none

/-- A field that stands for `fallback` when it is missing. -/
def defaulted {α : Type} (decode : Json → Option α) (fallback : α) : Option Json → Option α
  | some v => decode v
  | none => some fallback

/-- A field that may be missing or `null`. -/
def optionally {α : Type} (decode : Json → Option α) : Option Json → Option (Option α)
  | some .null => some none
  | some v => (decode v).map some
  | none => some none

/-- A text. -/
def text? : Json → Option String
  | .string text => text
  | _ => none

/-- Only a string that denotes a text is read as one. -/
theorem text?_eq_some_iff {v : Json} {s : String} : v.text? = some s ↔ v = .ofText s := by
  constructor
  · intro h
    unfold text? at h
    split at h
    next => rw [h]; rfl
    next => cases h
  · rintro rfl
    rfl

/-- A truth value. -/
def bool? : Json → Option Bool
  | .bool b => some b
  | _ => none

/-- A natural number of 32 bits, written with digits alone. -/
def uint32? : Json → Option UInt32
  | .number (.natural n) => if n < UInt32.size then some (UInt32.ofNat n) else none
  | _ => none

/-- A list whose items are all read by `decode`. -/
def list? {α : Type} (decode : Json → Option α) : Json → Option (List α)
  | .array items => items.mapM decode
  | _ => none

end Rolebook.Json
