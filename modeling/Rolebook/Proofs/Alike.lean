/-!
# Computations that act alike

Two computations, each on a state of its own, act alike when on related states they answer the same
and leave related states. Acting alike survives every way of putting computations together, so that
two programs act alike once the calls they are made of do.

With `fun s' s => s' = s ∧ P s` for the relation this speaks of one computation, and says that it
keeps `P`.
-/

namespace Rolebook

variable {σ σ' α β ε ε' : Type} {R : σ' → σ → Prop}

/-- On related states the same answer is given and related states are left. -/
def Alike (R : σ' → σ → Prop) (x' : StateM σ' α) (x : StateM σ α) : Prop :=
  ∀ s' s, R s' s → (x'.run s').1 = (x.run s).1 ∧ R (x'.run s').2 (x.run s).2

namespace Alike

theorem pure (a : α) : Alike R (Pure.pure a : StateM σ' α) (Pure.pure a : StateM σ α) :=
  fun _ _ h => ⟨rfl, h⟩

/-- Computations that are alike go on alike, since they hand on the same values and related states.
-/
theorem bind {x' : StateM σ' α} {x : StateM σ α} {k' : α → StateM σ' β} {k : α → StateM σ β}
    (h : Alike R x' x) (hk : ∀ a, Alike R (k' a) (k a)) : Alike R (x' >>= k') (x >>= k) := by
  intro s' s hs
  obtain ⟨hanswer, hleft⟩ := h s' s hs
  rw [StateT.run_bind, StateT.run_bind]
  show ((k' (x'.run s').1).run (x'.run s').2).1 = ((k (x.run s).1).run (x.run s).2).1 ∧
    R ((k' (x'.run s').1).run (x'.run s').2).2 ((k (x.run s).1).run (x.run s).2).2
  rw [hanswer]
  exact hk _ _ _ hleft

/-- Where one fails the other does, and where one goes on the other goes on. -/
theorem bind_attempt {x' : ExceptT ε (StateM σ') α} {x : ExceptT ε (StateM σ) α}
    {k' : α → ExceptT ε (StateM σ') β} {k : α → ExceptT ε (StateM σ) β} (h : Alike R x'.run x.run)
    (hk : ∀ a, Alike R (k' a).run (k a).run) : Alike R (x' >>= k').run (x >>= k).run := by
  rw [ExceptT.run_bind, ExceptT.run_bind]
  refine h.bind fun result => ?_
  cases result with
  | ok a => exact hk a
  | error fault => exact pure _

theorem lift {x' : StateM σ' α} {x : StateM σ α} (h : Alike R x' x) :
    Alike R (ExceptT.lift x' : ExceptT ε _ α).run (ExceptT.lift x : ExceptT ε _ α).run :=
  fun s' s hs => ⟨congrArg Except.ok (h s' s hs).1, (h s' s hs).2⟩

theorem adapt {x' : ExceptT ε (StateM σ') α} {x : ExceptT ε (StateM σ) α}
    (h : Alike R x'.run x.run) (f : ε → ε') : Alike R (x'.adapt f).run (x.adapt f).run :=
  fun s' s hs => ⟨congrArg (Except.mapError f) (h s' s hs).1, (h s' s hs).2⟩

/-- What needs no state is alike in any two. -/
theorem ofExcept (r : Except ε α) :
    Alike R (liftExcept r : ExceptT ε (StateM σ') α).run
      (liftExcept r : ExceptT ε (StateM σ) α).run := by
  cases r <;> exact pure _

end Alike

end Rolebook
