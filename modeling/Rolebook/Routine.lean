/-!
# Routines

A routine is a computation on shared state, cut into the steps between which other routines may come
in. `run` is what it does when none does. The concurrent behaviour of several routines is what comes
of taking their steps in any order.
-/

namespace Rolebook

/-- A computation on states `σ` in atomic steps. -/
inductive Routine (σ α : Type) where
  /-- Nothing more to do. -/
  | done (a : α)
  /-- A step: it changes the state, and what it saw decides how to go on. -/
  | step (update : σ → σ) (next : σ → Routine σ α)

namespace Routine

variable {σ α β : Type}

/-- One routine and then another. -/
def andThen : Routine σ α → (α → Routine σ β) → Routine σ β
  | done a, k => k a
  | step update next, k => step update fun s => (next s).andThen k

instance : Monad (Routine σ) where
  pure := done
  bind := andThen

/-- A single step. -/
def atomic (f : σ → α × σ) : Routine σ α :=
  step (fun s => (f s).2) fun s => done (f s).1

/-- A single step that changes nothing. -/
def observe (f : σ → α) : Routine σ α :=
  atomic fun s => (f s, s)

/-- All steps one after the other. -/
def run : Routine σ α → StateM σ α
  | done a, s => (a, s)
  | step update next, s => (next s).run (update s)

/-- Undisturbed, one routine and then another is the second run on what the first has left. -/
theorem run_bind (r : Routine σ α) (k : α → Routine σ β) (s : σ) :
    (r >>= k).run s = (k (r.run s).1).run (r.run s).2 := by
  show (r.andThen k).run s = _
  induction r generalizing s with
  | done a => rfl
  | step update next ih => exact ih s (update s)

end Routine

end Rolebook
