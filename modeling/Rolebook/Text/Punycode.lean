/-!
# Punycode

A text is written in ASCII: first its ASCII characters, then where the others are put among them.
They are put in by their numbers, equal ones from left to right, so that each step is one number:
how many places the next character is on, counted over all places for all characters between. The
digits of these numbers come lowest first; a digit below its threshold is the last one, and
thresholds adapt to the numbers that came before.
-/

namespace Rolebook.Text.Punycode

/-! ## Numbers -/

/-- The digit that has a value: letters come before figures. -/
def digitChar (d : Nat) : Char :=
  if d < 26 then Char.ofNat (97 + d) else Char.ofNat (22 + d)

/-- The value of a digit. -/
def digitValue? (c : Char) : Option Nat :=
  if 'a' ≤ c ∧ c ≤ 'z' then some (c.toNat - 97)
  else if 'A' ≤ c ∧ c ≤ 'Z' then some (c.toNat - 65)
  else if '0' ≤ c ∧ c ≤ '9' then some (c.toNat - 22)
  else none

/-- The threshold of a digit, the lowest digit of a number having the rank 1. -/
def threshold (bias rank : Nat) : Nat := min 26 (max 1 (36 * rank - bias))

/-- Every digit of a delta has a threshold to divide by. -/
theorem threshold_pos (bias rank : Nat) : 1 ≤ threshold bias rank := by
  unfold threshold
  omega

/-- The bias for numbers about as large as `n`, from what has been gathered so far. -/
def settle (gathered n : Nat) : Nat :=
  if 455 < n then settle (gathered + 36) (n / 35) else gathered + 36 * n / (n + 38)
termination_by n
decreasing_by omega

/-- The bias after a number, for a text that now has `size` characters. The first number is mostly a
large one. -/
def adapt (first : Bool) (n size : Nat) : Nat :=
  let n := if first then n / 700 else n / 2
  settle 0 (n + n / size)

/-- The digits of a number, from the one of the given rank on. -/
def digits (bias rank n : Nat) : List Char :=
  let least := threshold bias rank
  if n < least then [digitChar n]
  else
    digitChar (least + (n - least) % (36 - least)) ::
      digits bias (rank + 1) ((n - least) / (36 - least))
termination_by n
decreasing_by
  have := threshold_pos bias rank
  have := Nat.div_le_self (n - threshold bias rank) (36 - threshold bias rank)
  omega

/-! ## Characters put in -/

/-- How far a text has come. -/
structure Progress where
  /-- How many characters it has. -/
  size : Nat
  /-- The number of the character that was put in last. -/
  code : Nat
  /-- The place after that character. -/
  place : Nat
  /-- The bias for the next number. -/
  bias : Nat

/-- A text with its ASCII characters only. -/
def Progress.start (size : Nat) : Progress := ⟨size, 0x80, 0, 72⟩

/-- The text after one more character, which is `n` places on. -/
def Progress.advance (p : Progress) (code place n : Nat) : Progress :=
  ⟨p.size + 1, code, place + 1, adapt (p.place = 0) n (p.size + 1)⟩

/-! ## Writing -/

/-- Whether a character is in ASCII. -/
def isBasic (c : Char) : Bool := c.toNat < 0x80

/-- What is written for the characters of a text that are put in, given with their places in the
whole text. -/
def writeAll (text : List Char) (p : Progress) : List (Char × Nat) → List Char
  | [] => []
  | (c, index) :: more =>
    -- those before it are there already, but for greater ones
    let place := (text.take index).countP (· ≤ c)
    let n := (c.toNat - p.code) * (p.size + 1) + place - p.place
    digits p.bias 1 n ++ writeAll text (p.advance c.toNat place n) more

/-- A text written in ASCII. -/
def encode (text : List Char) : List Char :=
  let basic := text.filter isBasic
  let others := (text.zipIdx.filter fun (c, _) => !isBasic c).mergeSort fun a b => a.1 ≤ b.1
  (if basic = [] then [] else basic ++ ['-']) ++ writeAll text (.start basic.length) others

/-! ## Reading -/

/-- What numbers, and the weights of their digits, stay below. -/
def limit : Nat := UInt32.size

/-- A text that is being read. -/
structure Reading where
  text : List Char
  progress : Progress
  /-- How many digits of a number have been read. -/
  digits : Nat
  /-- What the next digit counts. -/
  weight : Nat
  /-- The place of the last character and the number so far. -/
  sum : Nat

/-- A text of which no digit has been read. -/
def Reading.start (basic : List Char) : Reading := ⟨basic, .start basic.length, 0, 1, 0⟩

/-- The character of a number. -/
def char? (code : Nat) : Option Char :=
  if code.isValidChar then some (Char.ofNat code) else none

/-- The text after the last digit of a number. -/
def Reading.put? (r : Reading) (sum : Nat) : Option Reading := do
  let p := r.progress
  let code := p.code + sum / (p.size + 1)
  let place := sum % (p.size + 1)
  let c ← char? code
  return {
    text := r.text.insertIdx place c
    progress := p.advance code place (sum - p.place)
    digits := 0
    weight := 1
    sum := place + 1 }

/-- The text after a digit. -/
def Reading.step? (r : Reading) (c : Char) : Option Reading := do
  let digit ← digitValue? c
  let least := threshold r.progress.bias (r.digits + 1)
  let sum := r.sum + digit * r.weight
  let weight := r.weight * (36 - least)
  if limit ≤ sum then none
  else if digit < least then r.put? sum
  else if limit ≤ weight then none
  else some { r with digits := r.digits + 1, weight := weight, sum := sum }

/-- The text that digits give. The last number has to be whole. -/
def Reading.finish? (r : Reading) (cs : List Char) : Option (List Char) := do
  let last ← cs.foldlM step? r
  if last.digits = 0 then some last.text else none

/-- The text that is written in ASCII, if it is. -/
def decode? (cs : List Char) : Option (List Char) :=
  let numbers := (cs.reverse.takeWhile (· ≠ '-')).reverse
  let basic := cs.take (cs.length - numbers.length - 1)
  if numbers.length = cs.length then (Reading.start []).finish? cs
  -- there is no hyphen without characters before it
  else if basic = [] then none
  else (Reading.start basic).finish? numbers

end Rolebook.Text.Punycode
