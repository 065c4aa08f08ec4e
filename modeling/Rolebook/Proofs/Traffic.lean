import Rolebook.Routine

/-!
# Traffic

Several routines under way on one state, none of which waits for another: each turn is the next step
of any one of them. An interleaving is then a list of places, the routine whose turn it is first in
front (`Traffic.run`), and what every interleaving keeps is shown for one turn (`turn_cases`).

Whatever has happened, the routines can go on until all are done (`exists_ended`): one that is given
all the turns ends as it does when it is run (`exists_turns`).

Routines can also be made from others: `cutShort` gives one up after so many steps, and `together`
mingles the steps of several into one.
-/

namespace Rolebook

variable {σ α : Type}

/-! ## Routines made from routines -/

namespace Routine

/-- A routine given up for `a` if it is not done after so many steps. -/
def cutShort (a : α) : Nat → Routine σ α → Routine σ α
  | _, done b => done b
  | 0, step _ _ => done a
  | n + 1, step update next => step update fun s => cutShort a n (next s)

/-- Several routines as one: their steps as long as there is an order for them, and then what is
left of them one after the other. -/
def together : List Nat → List (Routine σ α) → Routine σ (List α)
  | [], rs => rs.mapM fun r => r
  | i :: order, rs =>
    match rs[i]? with
    | some (step update next) => step update fun s => together order (rs.set i (next s))
    | _ => together order rs

end Routine

/-! ## Turns -/

/-- Routines under way on a state, each at a place of its own. -/
structure Traffic (σ α : Type) where
  state : σ
  routines : List (Routine σ α)

namespace Traffic

/-- The next step of the routine at a place. One that is done takes no more. -/
def turn (t : Traffic σ α) (i : Nat) : Traffic σ α :=
  match t.routines[i]? with
  | some (.step update next) => ⟨update t.state, t.routines.set i (next t.state)⟩
  | _ => t

/-- Turns one after the other. -/
def run (t : Traffic σ α) (order : List Nat) : Traffic σ α := order.foldl turn t

/-- All routines are done. -/
def Ended (t : Traffic σ α) : Prop := ∀ r ∈ t.routines, ∃ a, r = .done a

/-- To take turns in one order and then in another is to take them in both, one after the other. -/
theorem run_append (t : Traffic σ α) (order later : List Nat) :
    t.run (order ++ later) = (t.run order).run later := List.foldl_append

theorem run_concat (t : Traffic σ α) (order : List Nat) (i : Nat) :
    t.run (order ++ [i]) = (t.run order).turn i := run_append t order [i]

/-- A turn of a routine that has a step left takes that step. -/
theorem turn_step {t : Traffic σ α} {i : Nat} {update : σ → σ} {next : σ → Routine σ α}
    (h : t.routines[i]? = some (.step update next)) :
    t.turn i = ⟨update t.state, t.routines.set i (next t.state)⟩ := by
  rw [turn, h]

/-- A turn is a step of the routine at its place, or nothing. -/
theorem turn_cases (t : Traffic σ α) (i : Nat) :
    t.turn i = t ∨ ∃ update next, t.routines[i]? = some (.step update next) := by
  cases h : t.routines[i]? with
  | none => exact .inl (by rw [turn, h])
  | some r =>
    cases r with
    | done a => exact .inl (by rw [turn, h])
    | step update next => exact .inr ⟨update, next, rfl⟩

/-! ## Coming to an end -/

/-- A routine that is given all the turns ends as it does when it is run, and the others stay where
they are. -/
theorem exists_turns (r : Routine σ α) {t : Traffic σ α} {i : Nat} (h : t.routines[i]? = some r) :
    ∃ n, t.run (List.replicate n i)
      = ⟨(r.run t.state).2, t.routines.set i (.done (r.run t.state).1)⟩ := by
  induction r generalizing t with
  | done a =>
    obtain ⟨hi, hget⟩ := List.getElem?_eq_some_iff.mp h
    have hset : t.routines.set i (.done a) = t.routines := by rw [← hget, List.set_getElem_self]
    refine ⟨0, ?_⟩
    show t = ⟨t.state, t.routines.set i (.done a)⟩
    rw [hset]
  | step update next ih =>
    -- one turn, and then the turns that what is left of the routine takes
    have hi : i < t.routines.length := (List.getElem?_eq_some_iff.mp h).1
    have hnext : (t.turn i).routines[i]? = some (next t.state) := by
      rw [turn_step h]
      exact List.getElem?_set_self hi
    obtain ⟨n, hn⟩ := ih t.state hnext
    refine ⟨n + 1, ?_⟩
    show (t.turn i).run (List.replicate n i) = _
    rw [hn, turn_step h]
    show (⟨_, (t.routines.set i (next t.state)).set i _⟩ : Traffic σ α) = _
    rw [List.set_set]
    rfl

/-- Whatever has happened, the routines can go on until all are done. -/
theorem exists_ended (t : Traffic σ α) : ∃ order, (t.run order).Ended := by
  -- the places are dealt with one by one, and a routine that is done stays so
  suffices h : ∀ k ≤ t.routines.length, ∃ order, (t.run order).routines.length = t.routines.length ∧
      ∀ i < k, ∃ a, (t.run order).routines[i]? = some (.done a) by
    obtain ⟨order, hlength, hdone⟩ := h _ (Nat.le_refl _)
    refine ⟨order, fun r hr => ?_⟩
    obtain ⟨i, hi, rfl⟩ := List.getElem_of_mem hr
    obtain ⟨a, ha⟩ := hdone i (hlength ▸ hi)
    exact ⟨a, Option.some.inj ((List.getElem?_eq_getElem hi).symm.trans ha)⟩
  intro k
  induction k with
  | zero => exact fun _ => ⟨[], rfl, nofun⟩
  | succ k ih =>
    intro hk
    obtain ⟨order, hlength, hdone⟩ := ih (Nat.le_of_succ_le hk)
    have hlt : k < (t.run order).routines.length := by omega
    obtain ⟨n, hn⟩ := exists_turns _ (List.getElem?_eq_getElem hlt)
    refine ⟨order ++ List.replicate n k, ?_, fun i hi => ?_⟩
    · rw [run_append, hn, List.length_set, hlength]
    · rw [run_append, hn]
      by_cases he : k = i
      · subst he
        exact ⟨_, List.getElem?_set_self hlt⟩
      · obtain ⟨a, ha⟩ := hdone i (by omega)
        exact ⟨a, by rw [List.getElem?_set_ne he, ha]⟩

end Traffic

end Rolebook
