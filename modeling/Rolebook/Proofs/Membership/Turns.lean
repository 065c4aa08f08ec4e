import Rolebook.Proofs.Membership.Record
import Mathlib.Data.List.Count
import Mathlib.Logic.Relation

/-!
# Batches in any order

The events of a batch follow each other in one order, although some could as well come in another:
of the calls that end at the same time any could be the first to end, and a call for which there is
room could begin a little later. `Turn` leaves all that open. The order that is kept is one that the
turns allow (`reaches_run`), and whatever the order is:

* turns come to an end, and not before every call has ended (`wellFounded_turn`, `stuck_iff`);
* at no time are more calls under way than there is room for (`Within`);
* the record goes with what happens (`tracked_turns`).
-/

namespace Rolebook.FanOut

open Relation (ReflTransGen)

variable {σ : Type} {rules : Rules σ} {b b' : Batch σ}

/-! ## Turns -/

/-- What can happen to a batch when ties are broken in any way. -/
inductive Turn (rules : Rules σ) (b : Batch σ) : Batch σ → Prop where
  | start {o : Operation} {waiting : List Operation} (next : b.waiting = o :: waiting)
      (room : b.running.length < rules.width) : Turn rules b (b.start rules o waiting)
  | settle {r : Running σ} {rest : List (Running σ)} (parts : (r :: rest).Perm b.running)
      (due : ∀ r' ∈ rest, r.ends ≤ r'.ends) : Turn rules b (b.settle r rest)

/-- No other call under way ends before the one that ends first. -/
theorem earliest?_due {rs rest : List (Running σ)} {r : Running σ}
    (h : earliest? rs = some (r, rest)) : ∀ r' ∈ rest, r.ends ≤ r'.ends := by
  induction rs generalizing r rest with
  | nil => cases h
  | cons x xs ih =>
    unfold earliest? at h
    split at h
    next =>
      cases h
      exact nofun
    next first others hs =>
      split at h
      next hle =>
        cases h
        intro r' hr'
        rcases List.mem_cons.mp ((earliest?_perm hs).mem_iff.mpr hr') with rfl | hr'
        · exact hle
        · exact Nat.le_trans hle (ih hs r' hr')
      next hgt =>
        cases h
        intro r' hr'
        rcases List.mem_cons.mp hr' with rfl | hr'
        · exact Nat.le_of_not_le hgt
        · exact ih hs r' hr'

/-- The next event is a turn. -/
theorem turn_of_next? (hw : 0 < rules.width) (h : b.next? rules = some b') : Turn rules b b' := by
  unfold Batch.next? at h
  split at h
  next => cases h
  next hr hwaiting =>
    cases h
    refine .start hwaiting ?_
    rw [earliest?_eq_none_iff.mp hr]
    exact hw
  next hr _ =>
    cases h
    exact .settle (earliest?_perm hr) (earliest?_due hr)
  next hr hwaiting =>
    split at h
    next hroom =>
      cases h
      exact .start hwaiting hroom.2
    next =>
      cases h
      exact .settle (earliest?_perm hr) (earliest?_due hr)

/-- All events one after the other are so many turns, and no call is left after them. -/
theorem reaches_run (hw : 0 < rules.width) (b : Batch σ) :
    ReflTransGen (Turn rules) b (b.run rules) ∧
      (b.run rules).waiting = [] ∧ (b.run rules).running = [] := by
  induction b using Batch.run.induct rules with
  | case1 b b' hb _ ih =>
    obtain ⟨hreaches, hover⟩ := ih
    rw [run_of_some hb]
    exact ⟨.head (turn_of_next? hw hb) hreaches, hover⟩
  | case2 b hb =>
    rw [run_of_none hb]
    exact ⟨.refl, next?_eq_none_iff.mp hb⟩

/-! ## The end of a batch -/

/-- Each turn leaves less to do. -/
theorem work_turn (h : Turn rules b b') : b'.work < b.work := by
  cases h with
  | start next _ => exact work_start rules b next
  | settle parts _ =>
    have hlength := parts.length_eq
    rw [List.length_cons] at hlength
    simp only [Batch.work, Batch.settle]
    omega

/-- There is no batch without an end: each turn leaves less to happen. -/
theorem wellFounded_turn (rules : Rules σ) : WellFounded fun b' b => Turn rules b b' :=
  Subrelation.wf work_turn (measure Batch.work).wf

/-- Nothing more can happen just when no call waits or is under way. -/
theorem stuck_iff (hw : 0 < rules.width) :
    (∀ b', ¬ Turn rules b b') ↔ b.waiting = [] ∧ b.running = [] := by
  constructor
  · intro h
    cases hnext : b.next? rules with
    | none => exact next?_eq_none_iff.mp hnext
    | some b' => exact absurd (turn_of_next? hw hnext) (h b')
  · rintro ⟨hwaiting, hrunning⟩ b' ht
    cases ht with
    | start next _ =>
      rw [hwaiting] at next
      cases next
    | settle parts _ =>
      rw [hrunning] at parts
      exact List.cons_ne_nil _ _ parts.eq_nil

/-! ## Calls under way -/

/-- How many calls were under way at a time, as far as is known. -/
def Batch.inFlight (b : Batch σ) (t : Nat) : Nat :=
  b.ended.countP (·.covers t) + b.running.countP fun r => r.began ≤ t && t < r.ends

/-- At no time are more calls under way than `width`, now or at another time. -/
structure Within (width : Nat) (b : Batch σ) : Prop where
  running : b.running.length ≤ width
  inFlight : ∀ t, b.inFlight t ≤ width
  ended : ∀ x ∈ b.ended, x.ended ≤ b.clock
  underway : ∀ r ∈ b.running, b.clock ≤ r.ends

/-- At the beginning no call is under way. -/
theorem within_ofOperations (width : Nat) (operations : List Operation) (s : σ) :
    Within width (Batch.ofOperations operations s) where
  running := Nat.zero_le _
  inFlight _ := Nat.zero_le _
  ended := nofun
  underway := nofun

theorem began_running (rules : Rules σ) (clock : Nat) (o : Operation) (p : Pending σ) :
    (rules.running clock o p).began = clock := by
  unfold Rules.running
  split <;> rfl

/-- No call ends before it begins. -/
theorem le_ends_running (rules : Rules σ) (clock : Nat) (o : Operation) (p : Pending σ) :
    clock ≤ (rules.running clock o p).ends := by
  unfold Rules.running
  split
  next => exact Nat.le_add_right ..
  next => exact Nat.le_add_right ..

/-- A call takes up room from now on, when none of those that have ended does. -/
theorem Within.start (h : Within rules.width b) (o : Operation) (waiting : List Operation)
    (room : b.running.length < rules.width) : Within rules.width (b.start rules o waiting) := by
  let r := rules.running b.clock o ((rules.begin b.clock o).run b.state).1
  have hbegan : r.began = b.clock := began_running ..
  have hlength : (b.running ++ [r]).length ≤ rules.width := by
    rw [List.length_append, List.length_singleton]
    exact room
  refine ⟨hlength, fun t => ?_, h.ended, fun r' hr' => ?_⟩
  · show b.ended.countP _ + (b.running ++ [r]).countP _ ≤ _
    by_cases ht : b.clock ≤ t
    · -- from now on only calls that are under way count, and they have all found room
      have hover : b.ended.countP (·.covers t) = 0 := by
        refine List.countP_eq_zero.mpr fun x hx hcovers => ?_
        have hended := h.ended x hx
        simp only [Span.covers, Bool.and_eq_true, decide_eq_true_eq] at hcovers
        omega
      rw [hover, Nat.zero_add]
      exact Nat.le_trans List.countP_le_length hlength
    · -- up to now the new call was not under way
      have hlater : (r.began ≤ t && t < r.ends) = false := by
        rw [hbegan, decide_eq_false ht, Bool.false_and]
      rw [List.countP_append, List.countP_singleton, hlater]
      exact h.inFlight t
  · rcases List.mem_append.mp hr' with hr' | hr'
    · exact h.underway r' hr'
    · rw [List.mem_singleton.mp hr']
      exact le_ends_running ..

/-- A call that ends was under way until then, and is not from then on. -/
theorem Within.settle {width : Nat} (h : Within width b) {r : Running σ} {rest : List (Running σ)}
    (parts : (r :: rest).Perm b.running) (due : ∀ r' ∈ rest, r.ends ≤ r'.ends) :
    Within width (b.settle r rest) := by
  have hclock : max b.clock r.ends = r.ends :=
    Nat.max_eq_right (h.underway r (parts.mem_iff.mp (List.mem_cons_self ..)))
  have hlength := parts.length_eq
  rw [List.length_cons] at hlength
  -- the call only moves from those that will have ended to those that have
  have hsame : ∀ t, (b.settle r rest).inFlight t = b.inFlight t := by
    intro t
    show (b.ended ++ [(⟨_, _, max b.clock r.ends, _⟩ : Span)]).countP _ + rest.countP _ = _
    rw [hclock, List.countP_append, List.countP_singleton, Batch.inFlight, ← parts.countP_eq,
      List.countP_cons]
    show _ + (if (r.began ≤ t && t < r.ends) = true then 1 else 0) + _ = _
    omega
  refine ⟨?_, fun t => ?_, fun x hx => ?_, ?_⟩
  · have hroom := h.running
    show rest.length ≤ width
    omega
  · rw [hsame]
    exact h.inFlight t
  · rcases List.mem_append.mp hx with hx | hx
    · exact Nat.le_trans (h.ended x hx) (Nat.le_max_left ..)
    · rw [List.mem_singleton.mp hx]
      exact Nat.le_refl _
  · show ∀ r' ∈ rest, max b.clock r.ends ≤ r'.ends
    rw [hclock]
    exact due

/-- A call begins only where there is room for it, so no turn leaves more calls under way than there
may be. -/
theorem Within.turn (h : Within rules.width b) (ht : Turn rules b b') : Within rules.width b' := by
  cases ht with
  | start _ room => exact h.start _ _ room
  | settle parts due => exact h.settle parts due

/-- What every turn keeps holds wherever turns lead. -/
theorem turns_induction {P : Batch σ → Prop} (step : ∀ {b b' : Batch σ}, P b → Turn rules b b' → P b')
    (h : P b) (hb : ReflTransGen (Turn rules) b b') : P b' := by
  induction hb with
  | refl => exact h
  | tail _ ht ih => exact step ih ht

/-! ## What is seen -/

/-- The record goes with what happens, in whatever order it happens. -/
theorem tracked_turns {begin : RoleId → Nat → Operation → StateM σ (Pending σ)} {limits : Limits}
    {role : RoleId} {before : List Event} {operations : List Operation} (hd : operations.Nodup)
    {s : σ} {b : Batch (σ × List Event)}
    (hb : ReflTransGen (Turn (FanOut.rules (watchedBegin begin role) limits role))
      (Batch.ofOperations operations (s, before)) b) :
    ∃ seen, Tracked role limits.timeout before seen operations b := by
  refine turns_induction (P := fun b => ∃ seen, Tracked role limits.timeout before seen operations b)
    (fun h ht => ?_) ⟨[], tracked_ofOperations role limits.timeout before operations s⟩ hb
  obtain ⟨seen, h⟩ := h
  cases ht with
  | start hw _ =>
    obtain ⟨e, he⟩ := h.start hd begin hw
    exact ⟨_, he⟩
  | settle parts _ =>
    obtain ⟨extra, hextra⟩ := h.settle hd parts
    exact ⟨_, hextra⟩

end Rolebook.FanOut
