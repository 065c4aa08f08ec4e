/-!
# UTF-8

Bytes are decoded one at a time. A byte that cannot stand where it is closes the character begun
before it, if any, as malformed, and is then looked at afresh; so the longest start of a character
counts as one malformed piece. `decode?` refuses malformed bytes and `decodeLossy` puts U+FFFD for
each malformed piece.
-/

namespace Rolebook.Text.Utf8

/-- A character begun: its bits so far, how many bytes it still needs, and the bounds of the next
byte. -/
structure Begun where
  bits : Nat
  owed : Nat
  least : Nat
  most : Nat

/-- What the first byte of a character says. -/
inductive First where
  /-- The byte is a character. -/
  | whole (c : Char)
  /-- More bytes follow. -/
  | begun (b : Begun)
  /-- No character starts with this byte. -/
  | malformed

/-- The first byte of a character. The bounds on the second byte keep out overlong forms,
surrogates and numbers past the last character. -/
def first (b : Nat) : First :=
  if b < 0x80 then .whole (Char.ofNat b)
  else if b < 0xC2 then .malformed
  else if b < 0xE0 then .begun ⟨b - 0xC0, 1, 0x80, 0xBF⟩
  else if b = 0xE0 then .begun ⟨0, 2, 0xA0, 0xBF⟩
  else if b = 0xED then .begun ⟨13, 2, 0x80, 0x9F⟩
  else if b < 0xF0 then .begun ⟨b - 0xE0, 2, 0x80, 0xBF⟩
  else if b = 0xF0 then .begun ⟨0, 3, 0x90, 0xBF⟩
  else if b < 0xF4 then .begun ⟨b - 0xF0, 3, 0x80, 0xBF⟩
  else if b = 0xF4 then .begun ⟨4, 3, 0x80, 0x8F⟩
  else .malformed

/-- The pieces that a first byte closes, and the character it leaves begun. -/
def restart (b : Nat) : List (Option Char) × Option Begun :=
  match first b with
  | .whole c => ([some c], none)
  | .begun p => ([], some p)
  | .malformed => ([none], none)

/-- The pieces that a byte closes, and the character it leaves begun. -/
def step (state : Option Begun) (b : Nat) : List (Option Char) × Option Begun :=
  match state with
  | none => restart b
  | some p =>
    if p.least ≤ b ∧ b ≤ p.most then
      let bits := p.bits * 64 + b % 64
      if p.owed ≤ 1 then ([some (Char.ofNat bits)], none)
      else ([], some ⟨bits, p.owed - 1, 0x80, 0xBF⟩)
    else (none :: (restart b).1, (restart b).2)

/-- The characters of a byte sequence, with `none` for every malformed piece. -/
def pieces (state : Option Begun) : List UInt8 → List (Option Char)
  | [] => if state.isSome then [none] else []
  | b :: bs => (step state b.toNat).1 ++ pieces (step state b.toNat).2 bs

/-- The characters, if no piece is malformed. -/
def decode? (bs : List UInt8) : Option (List Char) :=
  (pieces none bs).mapM id

/-- The characters, with U+FFFD for every malformed piece. -/
def decodeLossy (bs : List UInt8) : List Char :=
  (pieces none bs).map fun piece => piece.getD '\uFFFD'

/-- The bytes of a character sequence. -/
def encode (cs : List Char) : List UInt8 :=
  cs.flatMap String.utf8EncodeChar

end Rolebook.Text.Utf8
