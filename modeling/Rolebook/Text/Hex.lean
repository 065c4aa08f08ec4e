/-!
# Hexadecimal digits

Digits are written in small letters and read in either case.
-/

namespace Rolebook.Text

/-- The character of a hexadecimal digit. -/
def hexChar (d : Nat) : Char :=
  if d < 10 then Char.ofNat (48 + d) else Char.ofNat (87 + d)

/-- The `n` lowest hexadecimal digits of `v`, the highest first. -/
def hexDigits : Nat → Nat → List Nat
  | 0, _ => []
  | n + 1, v => hexDigits n (v / 16) ++ [v % 16]

theorem length_hexDigits (n v : Nat) : (hexDigits n v).length = n := by
  induction n generalizing v with
  | zero => rfl
  | succ n ih => simp [hexDigits, ih]

/-- The value of a hexadecimal digit of either case. -/
def hexValue? (c : Char) : Option Nat :=
  if '0' ≤ c ∧ c ≤ '9' then some (c.toNat - 48)
  else if 'a' ≤ c ∧ c ≤ 'f' then some (c.toNat - 87)
  else if 'A' ≤ c ∧ c ≤ 'F' then some (c.toNat - 55)
  else none

/-- A hexadecimal digit is less than 16. -/
theorem hexValue?_lt {c : Char} {d : Nat} (h : hexValue? c = some d) : d < 16 := by
  have ord : ∀ {a b : Char}, a ≤ b → a.toNat ≤ b.toNat := fun hab => hab
  unfold hexValue? at h
  split at h
  · next hc =>
    have := ord hc.1
    have := ord hc.2
    cases h
    simp only [Char.reduceToNat] at *
    omega
  · split at h
    · next hc =>
      have := ord hc.1
      have := ord hc.2
      cases h
      simp only [Char.reduceToNat] at *
      omega
    · split at h
      · next hc =>
        have := ord hc.1
        have := ord hc.2
        cases h
        simp only [Char.reduceToNat] at *
        omega
      · cases h

/-- The number that digits spell, after the digits that spell `acc`. -/
def hexNumber? (acc : Nat) : List Char → Option Nat
  | [] => some acc
  | c :: cs =>
    match hexValue? c with
    | some d => hexNumber? (16 * acc + d) cs
    | none => none

/-- `n` more digits bring a number below `16 ^ n` times the next one. -/
theorem hexNumber?_lt {acc v : Nat} {cs : List Char} (h : hexNumber? acc cs = some v) :
    v < (acc + 1) * Nat.pow 16 cs.length := by
  induction cs generalizing acc with
  | nil =>
    cases h
    exact Nat.lt_of_lt_of_eq (Nat.lt_succ_self v) (Nat.mul_one _).symm
  | cons c cs ih =>
    unfold hexNumber? at h
    split at h
    · next d hd =>
      have hlt := hexValue?_lt hd
      have hv := ih h
      have hacc : (16 * acc + d + 1) * Nat.pow 16 cs.length
          ≤ 16 * (acc + 1) * Nat.pow 16 cs.length := Nat.mul_le_mul_right _ (by omega)
      have hpow : (acc + 1) * Nat.pow 16 (c :: cs).length
          = 16 * (acc + 1) * Nat.pow 16 cs.length := by
        show (acc + 1) * (Nat.pow 16 cs.length * 16) = _
        rw [Nat.mul_comm (Nat.pow 16 cs.length), ← Nat.mul_assoc, Nat.mul_comm (acc + 1)]
      rw [hpow]
      exact Nat.lt_of_lt_of_le hv hacc
    · cases h

end Rolebook.Text
