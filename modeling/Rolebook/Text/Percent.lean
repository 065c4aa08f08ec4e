import Rolebook.Text.Hex
import Rolebook.Text.Utf8

/-!
# Percent-encoding

A character is encoded as the bytes of its UTF-8, each of them a percent sign and two hexadecimal
digits in capital letters. Controls and characters outside ASCII are always encoded; which others
are depends on the place. A percent sign before anything but two digits is an ordinary character.
-/

namespace Rolebook.Text.Percent

/-- A byte encoded. -/
def escape (b : UInt8) : List Char :=
  '%' :: (hexDigits 2 b.toNat).map fun d => (hexChar d).toUpper

/-- Whether a character is encoded at every place. -/
def isAlwaysEncoded (c : Char) : Bool :=
  c.toNat < 0x20 || 0x7F ≤ c.toNat

/-- A text encoded, at a place where the characters of `also` are encoded as well. -/
def encode (also : List Char) (cs : List Char) : List Char :=
  cs.flatMap fun c =>
    if isAlwaysEncoded c || also.contains c then (String.utf8EncodeChar c).flatMap escape else [c]

/-- The bytes that an encoded text stands for. -/
def decode : List Char → List UInt8
  | [] => []
  | '%' :: a :: b :: cs =>
    match hexValue? a, hexValue? b with
    | some high, some low => UInt8.ofNat (16 * high + low) :: decode cs
    | _, _ => 0x25 :: decode (a :: b :: cs)
  | c :: cs => String.utf8EncodeChar c ++ decode cs

end Rolebook.Text.Percent
