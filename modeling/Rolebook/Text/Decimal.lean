/-!
# Decimal digits

Numbers written with a fixed count of digits, and the digits a text starts with.
-/

namespace Rolebook.Text

/-- Whether `c` is one of the ten ASCII digits. -/
def isDigit (c : Char) : Bool :=
  '0' ≤ c && c ≤ '9'

/-- The value of an ASCII digit. -/
def digitValue (c : Char) : Nat :=
  c.toNat - 48

/-- The digit of a value below ten. -/
def digitChar (d : Nat) : Char :=
  Char.ofNat (48 + d)

/-- The `n` lowest decimal digits of `v`, the highest first. -/
def decimalDigits : Nat → Nat → List Char
  | 0, _ => []
  | n + 1, v => decimalDigits n (v / 10) ++ [digitChar (v % 10)]

/-- The number that digits spell, after the digits that spell `acc`. -/
def decimalValue (acc : Nat) (cs : List Char) : Nat :=
  cs.foldl (fun n c => 10 * n + digitValue c) acc

/-- The digits already read count ten times as much with one more behind them. -/
theorem decimalValue_cons (acc : Nat) (c : Char) (cs : List Char) :
    decimalValue acc (c :: cs) = decimalValue (10 * acc + digitValue c) cs := by
  simp only [decimalValue, List.foldl_cons]

/-- More digits do not make a number smaller. -/
theorem le_decimalValue (acc : Nat) (cs : List Char) : acc ≤ decimalValue acc cs := by
  induction cs generalizing acc with
  | nil => exact Nat.le_refl acc
  | cons c cs ih =>
    have h := ih (10 * acc + digitValue c)
    rw [decimalValue_cons]
    omega

/-- The digits that `cs` starts with, no more than `limit` of them, and the rest. -/
def spanDigits : Nat → List Char → List Char × List Char
  | 0, cs => ([], cs)
  | _ + 1, [] => ([], [])
  | n + 1, c :: cs =>
    if isDigit c then (c :: (spanDigits n cs).1, (spanDigits n cs).2) else ([], c :: cs)

/-- The number spelled by the digits that `cs` starts with, at least one and no more than `limit`
of them, and the rest. -/
def takeNumber? (limit : Nat) (cs : List Char) : Option (Nat × List Char) :=
  match spanDigits limit cs with
  | ([], _) => none
  | (d :: ds, rest) => some (decimalValue 0 (d :: ds), rest)

end Rolebook.Text
