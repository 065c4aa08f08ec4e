import Rolebook.Json.Basic
import Rolebook.Text.Body
import Rolebook.Text.Decimal

/-!
# Tokens of JSON

The bytes of a text cut into tokens. A run of letters, digits, signs and points is one token, a
number or one of the three words; a string literal is one token with its escapes resolved.
-/

namespace Rolebook.Json

/-- A piece of JSON text. -/
inductive Token where
  | openArray
  | closeArray
  | openObject
  | closeObject
  | comma
  | colon
  | null
  | bool (b : Bool)
  | number (n : Number)
  | string (text : Option String)
  deriving DecidableEq

/-- The exponent after `e`: a sign, if any, and digits. -/
def exponent? : List Char → Option Int
  | '+' :: c :: cs => digits? (c :: cs)
  | '-' :: c :: cs => (digits? (c :: cs)).map (-·)
  | c :: cs => digits? (c :: cs)
  | [] => none
where
  /-- Digits and nothing else. -/
  digits? (cs : List Char) : Option Int :=
    if cs.all Text.isDigit then some (Text.decimalValue 0 cs : Int) else none

/-- What digits leave of a number: all of them that 64 bits have room for, and a power of ten for
the others. -/
structure Digits where
  mantissa : Nat
  exponent : Int

namespace Digits

/-- What a mantissa is less than. -/
def room : Nat := Nat.pow 2 64

/-- The digits before the point. From the first that has no room on they only count. -/
def whole (mantissa : Nat) : List Char → Digits
  | [] => ⟨mantissa, 0⟩
  | c :: cs =>
    let more := Text.decimalValue mantissa [c]
    if more < room then whole more cs else ⟨mantissa, cs.length + 1⟩

/-- The digits after the point. From the first that has no room on they are dropped; but it is tried
again whether there is room, if it was one before the point that had none. -/
def fraction (d : Digits) : List Char → Digits
  | [] => d
  | c :: cs =>
    let more := Text.decimalValue d.mantissa [c]
    if more < room then fraction ⟨more, d.exponent - 1⟩ cs else d

/-- The largest exponent that is put together with the digits. -/
def largestExponent : Nat := 2147483647

/-- The exponent as it is written. Beyond the largest it is taken as it stands. -/
def shift (d : Digits) (exponent : Int) : Digits :=
  ⟨d.mantissa, if exponent.natAbs ≤ largestExponent then d.exponent + exponent else exponent⟩

/-- The number with its sign. -/
def signed (negative : Bool) (d : Digits) : Number :=
  .scaled (if negative then -(d.mantissa : Int) else d.mantissa) d.exponent

end Digits

/-- The number of a sign, the digits before the point and the rest of the literal. -/
def numberAfter? (negative : Bool) (whole rest : List Char) : Option Number :=
  let digits := Digits.whole 0 whole
  let exponentAfter (digits : Digits) (rest : List Char) : Option Number :=
    (exponent? rest).map fun exponent => (digits.shift exponent).signed negative
  match rest with
  | [] =>
    -- a number with a minus sign is no natural number, not even zero
    some (if negative ∨ digits.exponent ≠ 0 then digits.signed negative
      else .natural digits.mantissa)
  | '.' :: rest =>
    let fraction := rest.takeWhile Text.isDigit
    if fraction.isEmpty then none
    else
      let digits := digits.fraction fraction
      match rest.dropWhile Text.isDigit with
      | [] => some (digits.signed negative)
      | c :: rest => if c = 'e' ∨ c = 'E' then exponentAfter digits rest else none
  | c :: rest => if c = 'e' ∨ c = 'E' then exponentAfter digits rest else none

/-- A number after its sign: no leading zeros. -/
def unsigned? (negative : Bool) (cs : List Char) : Option Number :=
  let whole := cs.takeWhile Text.isDigit
  let rest := cs.dropWhile Text.isDigit
  match whole with
  | [] => none
  | '0' :: _ :: _ => none
  | _ => numberAfter? negative whole rest

/-- The token of a run of letters, digits, signs and points. -/
def word? (cs : List Char) : Option Token :=
  if cs = "null".toList then some .null
  else if cs = "true".toList then some (.bool true)
  else if cs = "false".toList then some (.bool false)
  else
    match cs with
    | '-' :: cs => (unsigned? true cs).map .number
    | cs => (unsigned? false cs).map .number

/-- A string literal so far: its bytes, the last first, the first half of a surrogate pair that
waits for its second, and whether all halves so far were paired. -/
structure Literal where
  bytes : List UInt8
  half : Option Nat
  paired : Bool

namespace Literal

/-- The literal before its first character. -/
def start : Literal := ⟨[], none, true⟩

/-- The literal after something that is no second half. -/
def settle (l : Literal) : Literal :=
  ⟨l.bytes, none, l.paired && l.half.isNone⟩

/-- The literal with one more byte. -/
def pushByte (l : Literal) (b : UInt8) : Literal :=
  { l.settle with bytes := b :: l.bytes }

/-- The literal with one more character. -/
def pushChar (l : Literal) (c : Char) : Literal :=
  { l.settle with bytes := (String.utf8EncodeChar c).reverse ++ l.bytes }

/-- The literal with one more unit of UTF-16. -/
def pushUnit (l : Literal) (u : Nat) : Literal :=
  match l.half with
  | some high =>
    if Text.Body.isLow u then
      ⟨(String.utf8EncodeChar (Text.Body.pair high u)).reverse ++ l.bytes, none, l.paired⟩
    else { l with half := none, paired := false }
  | none =>
    if Text.Body.isHigh u then { l with half := some u }
    else if Text.Body.isLow u then { l with paired := false }
    else l.pushChar (Char.ofNat u)

/-- The text of a finished literal. -/
def text? (l : Literal) : Option String :=
  if l.paired && l.half.isNone then (Text.Utf8.decode? l.bytes.reverse).map String.ofList
  else none

end Literal

/-- Where reading stands between two bytes. -/
inductive Place where
  /-- Between tokens. -/
  | between
  /-- In a run, given last character first. -/
  | inWord (run : List Char)
  /-- In a string literal. -/
  | inString (l : Literal)
  /-- After a backslash. -/
  | inEscape (l : Literal)
  /-- In the digits of `\u`: how many are missing, and what the others spell. -/
  | inUnit (l : Literal) (missing value : Nat)

/-- Whether a byte can stand in a run. -/
def isWordByte (b : Nat) : Bool :=
  (0x30 ≤ b && b ≤ 0x39) || (0x41 ≤ b && b ≤ 0x5A) || (0x61 ≤ b && b ≤ 0x7A)
    || b == 0x2B || b == 0x2D || b == 0x2E

/-- The tokens, and the place after them, that a byte between tokens leads to. -/
def stepBetween (b : Nat) : Option (List Token × Place) :=
  if b = 0x20 ∨ b = 0x09 ∨ b = 0x0A ∨ b = 0x0D then some ([], .between)
  else if b = 0x5B then some ([.openArray], .between)
  else if b = 0x5D then some ([.closeArray], .between)
  else if b = 0x7B then some ([.openObject], .between)
  else if b = 0x7D then some ([.closeObject], .between)
  else if b = 0x2C then some ([.comma], .between)
  else if b = 0x3A then some ([.colon], .between)
  else if b = 0x22 then some ([], .inString .start)
  else if isWordByte b then some ([], .inWord [Char.ofNat b])
  else none

/-- The character that a backslash and a byte stand for, other than `\u`. -/
def escaped? (b : Nat) : Option Char :=
  if b = 0x22 then some '"'
  else if b = 0x5C then some '\\'
  else if b = 0x2F then some '/'
  else if b = 0x62 then some '\x08'
  else if b = 0x66 then some '\x0C'
  else if b = 0x6E then some '\n'
  else if b = 0x72 then some '\r'
  else if b = 0x74 then some '\t'
  else none

/-- The value of a byte that is a hexadecimal digit. -/
def hexByte? (b : Nat) : Option Nat :=
  if 0x30 ≤ b ∧ b ≤ 0x39 then some (b - 0x30)
  else if 0x41 ≤ b ∧ b ≤ 0x46 then some (b - 0x37)
  else if 0x61 ≤ b ∧ b ≤ 0x66 then some (b - 0x57)
  else none

/-- The tokens, and the place after them, that a byte leads to. -/
def stepByte (place : Place) (byte : UInt8) : Option (List Token × Place) :=
  let b := byte.toNat
  match place with
  | .between => stepBetween b
  | .inWord run =>
    if isWordByte b then some ([], .inWord (Char.ofNat b :: run))
    else
      match word? run.reverse, stepBetween b with
      | some token, some (tokens, next) => some (token :: tokens, next)
      | _, _ => none
  | .inString l =>
    if b = 0x22 then some ([.string l.text?], .between)
    else if b = 0x5C then some ([], .inEscape l)
    else if b < 0x20 then none
    else some ([], .inString (l.pushByte byte))
  | .inEscape l =>
    if b = 0x75 then some ([], .inUnit l 4 0)
    else (escaped? b).map fun c => ([], .inString (l.pushChar c))
  | .inUnit l missing value =>
    (hexByte? b).map fun d =>
      let value := value * 16 + d
      if missing ≤ 1 then ([], .inString (l.pushUnit value))
      else ([], .inUnit l (missing - 1) value)

/-- The tokens of the bytes after a place. -/
def tokensFrom (place : Place) : List UInt8 → Option (List Token)
  | [] =>
    match place with
    | .between => some []
    | .inWord run => (word? run.reverse).map ([·])
    | _ => none
  | b :: bs =>
    match stepByte place b with
    | some (tokens, next) => (tokensFrom next bs).map (tokens ++ ·)
    | none => none

/-- The tokens of a text. -/
def tokens? (bs : List UInt8) : Option (List Token) :=
  tokensFrom .between bs

end Rolebook.Json
