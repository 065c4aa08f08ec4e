import Rolebook.Text.Decimal
import Rolebook.Text.Hex
import Rolebook.Text.Split

/-!
# IPv4 addresses

A host whose last part is a number is an address or nothing. There may be fewer than four numbers:
the last one then fills all the bytes that are left. A number is hexadecimal after `0x`, octal after
`0`, and decimal otherwise.
-/

namespace Rolebook.Url.Ipv4

/-- The value of a digit in a numeral system of no more than sixteen digits. -/
def digit? (base : Nat) (c : Char) : Option Nat :=
  (Text.hexValue? c).filter (· < base)

/-- The number that digits spell; no digits spell zero. -/
def radixNumber? (base : Nat) (cs : List Char) : Option Nat := do
  let digits ← cs.mapM (digit? base)
  return digits.foldl (fun n d => base * n + d) 0

/-- The number that a part spells. -/
def number? : List Char → Option Nat
  | [] => none
  | '0' :: 'x' :: cs => radixNumber? 16 cs
  | '0' :: 'X' :: cs => radixNumber? 16 cs
  | '0' :: c :: cs => radixNumber? 8 (c :: cs)
  | cs => radixNumber? 10 cs

/-- The parts of a host, without an empty one at the end. -/
def parts (cs : List Char) : List (List Char) :=
  let all := Text.splitAt '.' cs
  if all.getLast? = some [] then all.dropLast else all

/-- Whether the last part of a host is a number. -/
def endsInNumber (cs : List Char) : Bool :=
  match (parts cs).getLast? with
  | some last => (last ≠ [] && last.all Text.isDigit) || (number? last).isSome
  | none => false

/-- The address of which all bytes but the last few are given, and the last few as one number. -/
def ofNumbers? (bytes : List Nat) (last : Nat) : Option Nat :=
  if bytes.length ≤ 3 ∧ (∀ b ∈ bytes, b ≤ 255) ∧ last < Nat.pow 256 (4 - bytes.length) then
    some (bytes.foldl (fun n b => 256 * n + b) 0 * Nat.pow 256 (4 - bytes.length) + last)
  else none

/-- The address that a host spells. -/
def read? (cs : List Char) : Option Nat := do
  let numbers ← (parts cs).mapM number?
  let last ← numbers.getLast?
  ofNumbers? numbers.dropLast last

/-- An address as four decimal numbers. -/
def text (address : Nat) : String :=
  ".".intercalate
    ([3, 2, 1, 0].map fun place => toString (address / Nat.pow 256 place % 256))

end Rolebook.Url.Ipv4
