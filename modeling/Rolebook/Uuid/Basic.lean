import Rolebook.Ordered.Rank
import Rolebook.Text.Hex

/-!
# Universally unique identifiers

A `Uuid` is a number of 128 bits. Its text is the hyphenated form in small letters; `Uuid/Reader`
reads the other spellings as well. Order is the order of the numbers, which `text` keeps: the digits
are written from the highest down, all of them, with the hyphens always at the same places.
-/

namespace Rolebook

/-- How many identifiers there are, one for each number of 128 bits. -/
def Uuid.count : Nat := 0x100000000000000000000000000000000

/-- A 128-bit identifier. -/
structure Uuid where
  toNat : Nat
  isLt : toNat < Uuid.count
  deriving DecidableEq

namespace Uuid

@[ext] theorem ext {a b : Uuid} (h : a.toNat = b.toNat) : a = b := by
  cases a; cases b; cases h; rfl

instance : Ranked Uuid := ⟨toNat, ext⟩

/-- Hyphens put after 8, 12, 16 and 20 of 32 digits. -/
def hyphenate (cs : List Char) : List Char :=
  cs.take 8 ++ '-' :: (cs.drop 8).take 4 ++ '-' :: (cs.drop 12).take 4
    ++ '-' :: (cs.drop 16).take 4 ++ '-' :: cs.drop 20

/-- The hyphenated form in small letters. -/
def chars (u : Uuid) : List Char :=
  hyphenate ((Text.hexDigits 32 u.toNat).map Text.hexChar)

/-- The hyphenated form in small letters, as a text. -/
def text (u : Uuid) : String :=
  String.ofList u.chars

/-- The version digit, the first one of the third group. -/
def version (u : Uuid) : Nat :=
  u.toNat >>> 76 % 16

/-- The version 4 identifier made of the 122 lowest bits of `entropy`. -/
def ofEntropy (entropy : Nat) : Uuid where
  toNat :=
    (entropy >>> 74 % 0x1000000000000) <<< 80 + 4 <<< 76
      + (entropy >>> 62 % 0x1000) <<< 64 + 2 <<< 62 + entropy % 0x4000000000000000
  isLt := by
    have h1 := Nat.mod_lt (entropy >>> 74) (show 0x1000000000000 > 0 by decide)
    have h2 := Nat.mod_lt (entropy >>> 62) (show 0x1000 > 0 by decide)
    have h3 := Nat.mod_lt entropy (show 0x4000000000000000 > 0 by decide)
    unfold count
    omega

end Uuid

end Rolebook
