/-!
# Base64

Bytes in the characters of the standard alphabet, four for every three bytes, filled up with `=`.
-/

namespace Rolebook.Text.Base64

/-- The character of six bits. -/
def symbol (bits : Nat) : Char :=
  if bits < 26 then Char.ofNat (65 + bits)
  else if bits < 52 then Char.ofNat (71 + bits)
  else if bits < 62 then Char.ofNat (bits - 4)
  else if bits = 62 then '+'
  else '/'

/-- The first characters of `bits`, which are 24 bits. -/
def symbols (count bits : Nat) : List Char :=
  ([3, 2, 1, 0].take count).map fun place => symbol (bits / Nat.pow 64 place % 64)

/-- Bytes encoded. -/
def encode : List UInt8 → List Char
  | [] => []
  | [a] => symbols 2 (a.toNat * 65536) ++ ['=', '=']
  | [a, b] => symbols 3 (a.toNat * 65536 + b.toNat * 256) ++ ['=']
  | a :: b :: c :: bs => symbols 4 (a.toNat * 65536 + b.toNat * 256 + c.toNat) ++ encode bs

end Rolebook.Text.Base64
