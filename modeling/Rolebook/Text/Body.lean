import Rolebook.Text.Utf8

/-!
# Text of a message body

Bytes are UTF-8 unless they start with a byte order mark, which picks UTF-8 or one of the two orders
of UTF-16 and is dropped. Nothing is refused: what cannot be decoded becomes U+FFFD. The headers of
the message have no say in it: a character set that they declare is taken to be UTF-8.
-/

namespace Rolebook.Text.Body

/-- Pairs of bytes as units of 16 bits, and whether a byte is left over. -/
def units (bigEndian : Bool) : List UInt8 → List Nat × Bool
  | [] => ([], false)
  | [_] => ([], true)
  | a :: b :: bs =>
    let unit := if bigEndian then a.toNat * 256 + b.toNat else b.toNat * 256 + a.toNat
    (unit :: (units bigEndian bs).1, (units bigEndian bs).2)

/-- Whether a unit is the first half of a pair. -/
def isHigh (u : Nat) : Bool := 0xD800 ≤ u && u ≤ 0xDBFF

/-- Whether a unit is the second half of a pair. -/
def isLow (u : Nat) : Bool := 0xDC00 ≤ u && u ≤ 0xDFFF

/-- The character of a pair of halves. -/
def pair (high low : Nat) : Char :=
  Char.ofNat (0x10000 + (high - 0xD800) * 0x400 + (low - 0xDC00))

/-- The characters of units of 16 bits, with U+FFFD for a half alone. `high` is a first half that
waits for its second, and `cut` says that a byte is left over at the end. -/
def ofUnits (cut : Bool) (high : Option Nat) : List Nat → List Char
  | [] => if cut || high.isSome then ['\uFFFD'] else []
  | u :: us =>
    match high with
    | some h =>
      if isLow u then pair h u :: ofUnits cut none us
      else if isHigh u then '\uFFFD' :: ofUnits cut (some u) us
      else '\uFFFD' :: Char.ofNat u :: ofUnits cut none us
    | none =>
      if isHigh u then ofUnits cut (some u) us
      else if isLow u then '\uFFFD' :: ofUnits cut none us
      else Char.ofNat u :: ofUnits cut none us

/-- The characters of UTF-16. -/
def decodeUtf16 (bigEndian : Bool) (bs : List UInt8) : List Char :=
  let (us, cut) := units bigEndian bs
  ofUnits cut none us

/-- The characters of a body. -/
def chars : List UInt8 → List Char
  | 0xEF :: 0xBB :: 0xBF :: bs => Utf8.decodeLossy bs
  | 0xFF :: 0xFE :: bs => decodeUtf16 false bs
  | 0xFE :: 0xFF :: bs => decodeUtf16 true bs
  | bs => Utf8.decodeLossy bs

/-- The text of a body. -/
def decode (bs : List UInt8) : String :=
  String.ofList (chars bs)

end Rolebook.Text.Body
