/-!
# JSON values

A value as its text gives it: members keep their order and may repeat a name. A string literal can
be well formed and still denote no text, when it holds half of a surrogate pair or bytes that are
not UTF-8; it is read as `none`, so that it may stand in a member that nobody looks at.

Taken for granted of the library that reads JSON: a member that nobody asks for is skipped, whatever
is in it; a value that is looked at twice is kept whole in between (`Json.isKept`), and for that it
may be 127 levels deep, its numbers are computed in double precision the fast way, which gives up a
little below infinity (`Number.isFinite`), and all of its texts have to be texts.
-/

namespace Rolebook

/-- A number literal: one written with digits alone, or any other as `mantissa * 10 ^ exponent`.
Both hold as much of the digits as 64 bits have room for. -/
inductive Json.Number where
  | natural (n : Nat)
  | scaled (mantissa : Int) (exponent : Int)
  deriving DecidableEq

/-- A JSON value. -/
inductive Json where
  | null
  | bool (b : Bool)
  | number (n : Json.Number)
  | string (text : Option String)
  | array (items : List Json)
  | object (members : List (Option String × Json))
  deriving Inhabited

namespace Json

/-- The literal of a text. -/
def ofText (s : String) : Json := string (some s)

/-- The literal of a natural number. -/
def ofNat (n : Nat) : Json := number (.natural n)

/-- The object with these members. -/
def record (members : List (String × Json)) : Json :=
  object (members.map fun (name, value) => (some name, value))

/-- A value, or `null` for none. -/
def optional {α : Type} (encode : α → Json) : Option α → Json
  | some a => encode a
  | none => null

mutual

/-- How deep arrays and objects are nested. -/
def depth : Json → Nat
  | .array items => depthOfItems items + 1
  | .object members => depthOfMembers members + 1
  | _ => 0

/-- The depth of the deepest item. -/
def depthOfItems : List Json → Nat
  | [] => 0
  | item :: items => max item.depth (depthOfItems items)

/-- The depth of the deepest member. -/
def depthOfMembers : List (Option String × Json) → Nat
  | [] => 0
  | (_, value) :: members => max value.depth (depthOfMembers members)

end

namespace Number

/-- The number of 53 binary digits that is nearest to a natural number, and of two the even one. -/
def rounded (n : Nat) : Nat :=
  let unit := Nat.pow 2 (n.log2 - 52)
  let below := n / unit
  let rest := n % unit
  if 2 * rest < unit ∨ 2 * rest = unit ∧ below % 2 = 0 then below * unit else (below + 1) * unit

/-- What is as large as this rounds up to infinity in double precision: the midpoint between the
largest finite number and the next power of two. -/
def overflow : Nat := Nat.pow 2 1024 - Nat.pow 2 970

/-- The largest power of ten in double precision. -/
def largestPower : Int := 308

/-- Whether a number is finite in double precision, computed as the product of its mantissa and a
power of ten, each of them rounded before they are multiplied. So what is just below the bound may
be refused. -/
def isFinite : Number → Bool
  | .natural _ => true
  | .scaled mantissa exponent =>
    if mantissa = 0 ∨ exponent < 0 then true
    else if largestPower < exponent then false
    else rounded mantissa.natAbs * rounded (Nat.pow 10 exponent.natAbs) < overflow

-- the first is the largest finite number; the second is nearer to it than to the bound
example : (scaled 17976931348623157 292).isFinite ∧ ¬ (scaled 17976931348623158 292).isFinite := by
  decide +kernel

end Number

mutual

/-- Whether every string in a value denotes a text and every number is finite. -/
def isLegible : Json → Bool
  | .number n => n.isFinite
  | .string text => text.isSome
  | .array items => areLegible items
  | .object members => membersAreLegible members
  | _ => true

/-- Whether all items are legible. -/
def areLegible : List Json → Bool
  | [] => true
  | item :: items => item.isLegible && areLegible items

/-- Whether all members and their names are legible. -/
def membersAreLegible : List (Option String × Json) → Bool
  | [] => true
  | (name, value) :: members => name.isSome && value.isLegible && membersAreLegible members

end

/-- How deep a value that is kept whole may be nested. -/
def depthLimit : Nat := 127

/-- Whether a value can be kept whole, and not only skipped over. -/
def isKept (v : Json) : Bool :=
  v.depth ≤ depthLimit && v.isLegible

end Json

end Rolebook
