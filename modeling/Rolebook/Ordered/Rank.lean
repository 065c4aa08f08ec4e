/-!
# Ranks

Ids, assignments and membership operations are all ordered by a natural number. `Ranked` names that
number once, so that sorted sets and maps, and the reports that list operations, share one order.
-/

namespace Rolebook

/-- A type whose values are told apart and ordered by a natural number. -/
class Ranked (κ : Type) where
  rank : κ → Nat
  rank_inj : ∀ {a b : κ}, rank a = rank b → a = b

export Ranked (rank)

namespace Ranked

variable {κ : Type} [Ranked κ]

/-- A rank says which value it is. -/
theorem rank_eq_iff {a b : κ} : rank a = rank b ↔ a = b :=
  ⟨rank_inj, fun h => h ▸ rfl⟩

theorem rank_ne {a b : κ} (h : a ≠ b) : rank a ≠ rank b :=
  fun e => h (rank_inj e)

/-- `a` comes before `b`, or is `b`. -/
def atMost (a b : κ) : Bool :=
  rank a ≤ rank b

theorem atMost_trans (a b c : κ) (h : atMost a b = true) (k : atMost b c = true) :
    atMost a c = true := by
  simp only [atMost, decide_eq_true_eq] at *
  omega

theorem atMost_total (a b : κ) : (atMost a b || atMost b a) = true := by
  simp only [atMost, Bool.or_eq_true, decide_eq_true_eq]
  omega

end Ranked

end Rolebook
