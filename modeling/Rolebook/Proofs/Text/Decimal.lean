import Mathlib.Algebra.Group.Nat.Defs
import Mathlib.Data.List.Basic
import Rolebook.Text.Decimal

/-!
# Digits read back

So many digits of a number spell its remainder (`decimalValue_decimalDigits`). A reader of digits
takes what was written, and no more: either because it may take no more digits, or because something
else follows (`takeNumber?_decimalDigits`).
-/

namespace Rolebook.Text

theorem isDigit_digitChar : ∀ d < 10, isDigit (digitChar d) = true := by decide

theorem digitValue_digitChar : ∀ d < 10, digitValue (digitChar d) = d := by decide

/-- A number is written in as many digits as are asked for. -/
theorem length_decimalDigits (n v : Nat) : (decimalDigits n v).length = n := by
  induction n generalizing v with
  | zero => rfl
  | succ n ih => rw [decimalDigits, List.length_append, ih, List.length_singleton]

theorem isDigit_of_mem_decimalDigits {n v : Nat} {c : Char} (h : c ∈ decimalDigits n v) :
    isDigit c = true := by
  induction n generalizing v with
  | zero => cases h
  | succ n ih =>
    rcases List.mem_append.mp h with h | h
    · exact ih h
    · rw [List.mem_singleton.mp h]
      exact isDigit_digitChar _ (Nat.mod_lt v (by decide))

/-- The last `n` digits of a number tell its remainder. -/
theorem decimalValue_decimalDigits (n v : Nat) :
    decimalValue 0 (decimalDigits n v) = v % 10 ^ n := by
  induction n generalizing v with
  | zero => exact (Nat.mod_one v).symm
  | succ n ih =>
    have hlast : v % 10 < 10 := Nat.mod_lt v (by decide)
    have happend : decimalValue 0 (decimalDigits n (v / 10) ++ [digitChar (v % 10)])
        = 10 * decimalValue 0 (decimalDigits n (v / 10)) + digitValue (digitChar (v % 10)) := by
      rw [decimalValue, List.foldl_append]
      rfl
    have hsplit : v % 10 ^ (n + 1) = 10 * (v / 10 % 10 ^ n) + v % 10 := by
      rw [Nat.pow_succ, Nat.mul_comm, Nat.mod_mul, Nat.add_comm]
    rw [decimalDigits, happend, ih, digitValue_digitChar _ hlast, hsplit]

theorem digitValue_lt {c : Char} (h : isDigit c = true) : digitValue c < 10 := by
  have hhigh : c.toNat ≤ 57 := of_decide_eq_true (Bool.and_eq_true_iff.mp h).2
  unfold digitValue
  omega

/-- A number has no more digits than are written of it. -/
theorem decimalValue_lt {cs : List Char} (h : ∀ c ∈ cs, isDigit c = true) (acc : Nat) :
    decimalValue acc cs < (acc + 1) * 10 ^ cs.length := by
  induction cs generalizing acc with
  | nil => exact Nat.lt_of_lt_of_eq (Nat.lt_succ_self acc) (Nat.mul_one _).symm
  | cons c cs ih =>
    obtain ⟨hc, hcs⟩ := List.forall_mem_cons.mp h
    have hfirst : 10 * acc + digitValue c + 1 ≤ (acc + 1) * 10 := by
      have hdigit := digitValue_lt hc
      omega
    calc decimalValue acc (c :: cs)
        < (10 * acc + digitValue c + 1) * 10 ^ cs.length := by
          rw [decimalValue_cons]
          exact ih hcs _
      _ ≤ (acc + 1) * 10 * 10 ^ cs.length := Nat.mul_le_mul_right _ hfirst
      _ = (acc + 1) * 10 ^ (c :: cs).length := by
          rw [List.length_cons, Nat.pow_succ, Nat.mul_assoc, Nat.mul_comm 10]

/-- A text whose first character, if there is one, is no digit. -/
def Undigited (cs : List Char) : Prop := ∀ c ∈ cs.head?, isDigit c = false

theorem undigited_cons {c : Char} {cs : List Char} (h : isDigit c = false) : Undigited (c :: cs) := by
  intro d hd
  cases hd
  exact h

/-- Where reading digits ends: at the limit, or before something else. -/
def EndsAt (limit : Nat) (ds rest : List Char) : Prop :=
  ds.length = limit ∨ ds.length ≤ limit ∧ Undigited rest

/-- What is taken is digits, and no more of them than may be. -/
theorem spanDigits_digits (limit : Nat) (cs : List Char) :
    (spanDigits limit cs).1.length ≤ limit ∧ ∀ c ∈ (spanDigits limit cs).1, isDigit c = true := by
  induction limit generalizing cs with
  | zero => exact ⟨Nat.le_refl 0, nofun⟩
  | succ limit ih =>
    cases cs with
    | nil => exact ⟨Nat.zero_le _, nofun⟩
    | cons c cs =>
      rw [spanDigits]
      split
      next hc =>
        obtain ⟨hlength, hdigits⟩ := ih cs
        exact ⟨Nat.succ_le_succ hlength, List.forall_mem_cons.mpr ⟨hc, hdigits⟩⟩
      next => exact ⟨Nat.zero_le _, nofun⟩

/-- Digits are told from what comes after them. -/
theorem spanDigits_append {limit : Nat} {ds rest : List Char} (hd : ∀ c ∈ ds, isDigit c = true)
    (hend : EndsAt limit ds rest) : spanDigits limit (ds ++ rest) = (ds, rest) := by
  induction ds generalizing limit with
  | nil =>
    rcases hend with rfl | ⟨-, hrest⟩
    · rfl
    · cases limit with
      | zero => rfl
      | succ limit =>
        cases rest with
        | nil => rfl
        | cons c rest => rw [List.nil_append, spanDigits, hrest c rfl]; rfl
  | cons c ds ih =>
    obtain ⟨limit, rfl⟩ : ∃ n, limit = n + 1 := by
      rcases hend with rfl | ⟨hle, -⟩
      · exact ⟨_, rfl⟩
      · exact Nat.exists_eq_add_of_le' (Nat.le_trans (Nat.succ_le_succ (Nat.zero_le _)) hle)
    have hinner : spanDigits limit (ds ++ rest) = (ds, rest) := by
      refine ih (fun x hx => hd x (List.mem_cons_of_mem _ hx)) ?_
      rcases hend with he | ⟨hle, hrest⟩
      · exact Or.inl (Nat.succ.inj he)
      · exact Or.inr ⟨Nat.le_of_succ_le_succ hle, hrest⟩
    rw [List.cons_append, spanDigits, hd c (List.mem_cons_self ..), hinner]
    rfl

/-- A number written with as many digits as it needs is read back, and what follows is left. -/
theorem takeNumber?_decimalDigits {limit n v : Nat} {rest : List Char} (hn : 0 < n)
    (hv : v < 10 ^ n) (hend : EndsAt limit (decimalDigits n v) rest) :
    takeNumber? limit (decimalDigits n v ++ rest) = some (v, rest) := by
  have hvalue : decimalValue 0 (decimalDigits n v) = v := by
    rw [decimalValue_decimalDigits, Nat.mod_eq_of_lt hv]
  have hspan := spanDigits_append (fun c hc => isDigit_of_mem_decimalDigits hc) hend
  have hlength := length_decimalDigits n v
  rw [takeNumber?, hspan]
  cases hd : decimalDigits n v with
  | nil => rw [hd] at hlength; exact absurd hlength (Nat.ne_of_lt hn)
  | cons d ds => rw [← hvalue, hd]

/-- The digits that a number is printed with are enough for it. -/
theorem lt_pow_length_toString (v : Nat) : v < 10 ^ (toString v).length := by
  have hlength : (toString v).length = v.repr.length := rfl
  rw [hlength]
  exact (Nat.length_repr_le_iff Nat.length_repr_pos).mp (Nat.le_refl _)

end Rolebook.Text
