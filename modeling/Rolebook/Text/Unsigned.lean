import Rolebook.Text.Decimal

/-!
# Unsigned numbers

A number in decimal digits, with a plus sign before them or not. A number that is too large is
reported only if nothing before the digit that makes it so is wrong.
-/

namespace Rolebook.Text.Unsigned

/-- What is wrong with a text that is no number. -/
inductive Malformed where
  /-- There is nothing. -/
  | empty
  /-- A character that is no digit. -/
  | digit
  /-- The number is beyond the limit. -/
  | tooLarge
  deriving DecidableEq

/-- The words for a malformed number. -/
def Malformed.message : Malformed → String
  | empty => "cannot parse integer from empty string"
  | digit => "invalid digit found in string"
  | tooLarge => "number too large to fit in target type"

/-- The number that digits spell after the digits that spell `acc`. -/
def readDigits (limit : Nat) : Nat → List Char → Except Malformed Nat
  | acc, [] => .ok acc
  | acc, c :: cs =>
    if !isDigit c then .error .digit
    else if limit < 10 * acc + digitValue c then .error .tooLarge
    else readDigits limit (10 * acc + digitValue c) cs

/-- The number up to `limit` that a text spells. -/
def read (limit : Nat) : List Char → Except Malformed Nat
  | [] => .error .empty
  | '+' :: c :: cs => readDigits limit 0 (c :: cs)
  | cs => readDigits limit 0 cs

/-- Digits spell a number within the limit, or else one of them is none or the number is too large.
-/
theorem readDigits_eq_ok_iff (limit acc v : Nat) (cs : List Char) (hacc : acc ≤ limit) :
    readDigits limit acc cs = .ok v ↔
      cs.all isDigit = true ∧ decimalValue acc cs = v ∧ v ≤ limit := by
  induction cs generalizing acc with
  | nil =>
    simp only [readDigits, List.all_nil, decimalValue, List.foldl_nil, Except.ok.injEq, true_and]
    exact ⟨fun h => ⟨h, h ▸ hacc⟩, And.left⟩
  | cons c cs ih =>
    rw [readDigits]
    by_cases hd : isDigit c = true
    · rw [if_neg (by simp [hd]), List.all_cons, hd, Bool.true_and, decimalValue_cons]
      by_cases hl : limit < 10 * acc + digitValue c
      · rw [if_pos hl]
        constructor
        · intro h
          cases h
        · intro h
          obtain ⟨-, hv, hle⟩ := h
          have := le_decimalValue (10 * acc + digitValue c) cs
          omega
      · rw [if_neg hl]
        exact ih _ (by omega)
    · rw [if_pos (by simp [hd])]
      simp [hd]

end Rolebook.Text.Unsigned
