import Rolebook.Proofs.Alike
import Rolebook.Proofs.Membership.FanOut
import Rolebook.Gateway
import Mathlib.Data.List.Forall2

/-!
# A batch under watch

Any backend can be watched: whatever it is asked and whatever it answers is written down, and it is
left to do what it does. A computation under watch is to do what it does without (`Shadows`), so
that what the record shows is what happens when nobody watches. `shadows_changeAll` says so of a
batch, whatever is written down, if it says so of each of its calls (`BeginsAs`).
-/

namespace Rolebook

/-- What is seen of a backend at work. -/
inductive Event where
  /-- The members of a role were read, with this result. -/
  | read (role : RoleId) (result : Except Fault (List User))
  /-- A call of a batch began that takes so long. -/
  | began (role : RoleId) (operation : Operation) (delay : Nat)
  /-- A call of a batch came to an end by itself. -/
  | answered (role : RoleId) (operation : Operation) (result : Except Fault Unit)
  /-- Some other call was made. -/
  | asked (call : Gateway.Call)

namespace Event

/-- The change that an event is the beginning of. -/
def begun? : Event → Option (RoleId × Operation)
  | began role o _ => some (role, o)
  | _ => none

/-- An event of the call for this change to the role's members. -/
def On (role : RoleId) (o : Operation) : Event → Prop
  | began role' o' _ => role' = role ∧ o' = o
  | answered role' o' _ => role' = role ∧ o' = o
  | _ => False

theorem on_began (role : RoleId) (o : Operation) (delay : Nat) : (began role o delay).On role o :=
  ⟨rfl, rfl⟩

theorem on_answered (role : RoleId) (o : Operation) (result : Except Fault Unit) :
    (answered role o result).On role o := ⟨rfl, rfl⟩

end Event

section Shadows

variable {σ ω α : Type}

/-- A computation under watch does what it does without. -/
def Shadows (x' : StateM (σ × List ω) α) (x : StateM σ α) : Prop :=
  ∀ s : σ × List ω, (x'.run s).1 = (x.run s.1).1 ∧ (x'.run s).2.1 = (x.run s.1).2

/-- A computation under watch, as one of two that act alike. -/
theorem shadows_iff_alike {x' : StateM (σ × List ω) α} {x : StateM σ α} :
    Shadows x' x ↔ Alike (fun s' s => s'.1 = s) x' x := by
  constructor
  · rintro h s _ rfl
    exact h s
  · exact fun h s => h s s.1 rfl

end Shadows

namespace FanOut

variable {σ ω : Type}

/-- The end of a call under watch. -/
def watchedFinish (role : RoleId) (o : Operation) (finish : StateM σ (Except Fault Unit)) :
    StateM (σ × List Event) (Except Fault Unit) :=
  fun s =>
    let done := finish.run s.1
    (done.1, done.2, s.2 ++ [.answered role o done.1])

/-- The beginning of a call under watch. -/
def watchedBegin (begin : RoleId → Nat → Operation → StateM σ (Pending σ)) (role : RoleId)
    (clock : Nat) (o : Operation) : StateM (σ × List Event) (Pending (σ × List Event)) :=
  fun s =>
    let begun := (begin role clock o).run s.1
    (⟨begun.1.delay, watchedFinish role o begun.1.finish⟩,
      begun.2, s.2 ++ [.began role o begun.1.delay])

/-- Time passes under watch, unseen. -/
def watchedElapse (elapse : Nat → σ → σ) (time : Nat) (s : σ × List ω) : σ × List ω :=
  (elapse time s.1, s.2)

/-- A call begins under watch as it does without, and so it comes to its end. -/
structure BeginsAs (begun' : Pending (σ × List ω) × σ × List ω) (begun : Pending σ × σ) : Prop where
  delay : begun'.1.delay = begun.1.delay
  finish : Shadows begun'.1.finish begun.1.finish
  state : begun'.2.1 = begun.2

/-- A call on record begins as it would without one. -/
theorem beginsAs_watchedBegin (begin : RoleId → Nat → Operation → StateM σ (Pending σ))
    (role : RoleId) (clock : Nat) (o : Operation) (s : σ × List Event) :
    BeginsAs ((watchedBegin begin role clock o).run s) ((begin role clock o).run s.1) :=
  ⟨rfl, fun _ => ⟨rfl, rfl⟩, rfl⟩

/-! ## Watching changes nothing -/

section Mirror

variable {begin' : RoleId → Nat → Operation → StateM (σ × List ω) (Pending (σ × List ω))}
  {begin : RoleId → Nat → Operation → StateM σ (Pending σ)} {role : RoleId} {limits : Limits}
  {b' : Batch (σ × List ω)} {b : Batch σ}

/-- The same call under way, once under watch and once not. -/
structure SameCall (r' : Running (σ × List ω)) (r : Running σ) : Prop where
  operation : r'.operation = r.operation
  began : r'.began = r.began
  ends : r'.ends = r.ends
  finish : Shadows r'.finish r.finish

/-- The same batch, once under watch and once not. -/
structure Mirrors (b' : Batch (σ × List ω)) (b : Batch σ) : Prop where
  clock : b'.clock = b.clock
  waiting : b'.waiting = b.waiting
  running : List.Forall₂ SameCall b'.running b.running
  ended : b'.ended = b.ended
  state : b'.state.1 = b.state

/-- A call on record takes the same time as one without, and is given up just when that is. -/
theorem sameCall_running (limits : Limits) (role : RoleId) (begin' : Nat → Operation → _)
    (begin : Nat → Operation → StateM σ (Pending σ)) (clock : Nat) (o : Operation)
    {p' : Pending (σ × List ω)} {p : Pending σ} (hdelay : p'.delay = p.delay)
    (hfinish : Shadows p'.finish p.finish) :
    SameCall ((rules begin' limits role).running clock o p')
      ((rules begin limits role).running clock o p) := by
  unfold Rules.running
  rw [hdelay]
  show SameCall (if p.delay ≤ limits.timeout then _ else _)
    (if p.delay ≤ limits.timeout then _ else _)
  split
  next => exact ⟨rfl, rfl, rfl, hfinish⟩
  next => exact ⟨rfl, rfl, rfl, fun _ => ⟨rfl, rfl⟩⟩

/-- Two batches that mirror each other begin the same call. -/
theorem Mirrors.start (h : Mirrors b' b) (o : Operation) (waiting : List Operation)
    (hbegin : ∀ clock s, BeginsAs ((begin' role clock o).run s) ((begin role clock o).run s.1)) :
    Mirrors (b'.start (rules (begin' role) limits role) o waiting)
      (b.start (rules (begin role) limits role) o waiting) := by
  obtain ⟨clock', waiting', running', ended', state'⟩ := b'
  obtain ⟨clock, waiting₀, running, ended, state⟩ := b
  obtain ⟨hclock, -, hrunning, hended, hstate⟩ := h
  dsimp only at hclock hrunning hended hstate
  subst hclock hended hstate
  have hbegun := hbegin clock' state'
  refine ⟨rfl, rfl, ?_, rfl, hbegun.state⟩
  exact List.rel_append hrunning (.cons (sameCall_running limits role _ _ clock' o hbegun.delay
    hbegun.finish) .nil)

/-- Two batches that mirror each other end the same call. -/
theorem Mirrors.settle (h : Mirrors b' b) {r' : Running (σ × List ω)} {r : Running σ}
    {rest' : List (Running (σ × List ω))} {rest : List (Running σ)} (hr : SameCall r' r)
    (hrest : List.Forall₂ SameCall rest' rest) :
    Mirrors (b'.settle r' rest') (b.settle r rest) where
  clock := by
    show max _ _ = max _ _
    rw [h.clock, hr.ends]
  waiting := h.waiting
  running := hrest
  ended := by
    show b'.ended ++ [_] = b.ended ++ [_]
    rw [h.ended, h.clock, hr.operation, hr.began, hr.ends, (hr.finish b'.state).1, h.state]
  state := by
    show (r'.finish.run b'.state).2.1 = _
    rw [(hr.finish b'.state).2, h.state]
    rfl

/-- The call that ends first is the same one. -/
theorem sameCall_earliest? {rs' : List (Running (σ × List ω))} {rs : List (Running σ)}
    (h : List.Forall₂ SameCall rs' rs) :
    Option.Rel (fun x' x => SameCall x'.1 x.1 ∧ List.Forall₂ SameCall x'.2 x.2)
      (earliest? rs') (earliest? rs) := by
  induction h with
  | nil => exact .none
  | cons hr hrs ih =>
    unfold earliest?
    revert ih
    generalize earliest? _ = first'
    generalize earliest? _ = first
    intro ih
    cases ih with
    | none => exact .some ⟨hr, .nil⟩
    | some hfirst =>
      dsimp only
      rw [hr.ends, hfirst.1.ends]
      split
      next => exact .some ⟨hr, hrs⟩
      next => exact .some ⟨hfirst.1, .cons hr hfirst.2⟩

variable (hbegin : ∀ role clock o s,
  BeginsAs ((begin' role clock o).run s) ((begin role clock o).run s.1))

include hbegin

/-- The next event is the same one. -/
theorem Mirrors.next? (h : Mirrors b' b) :
    Option.Rel Mirrors (b'.next? (rules (begin' role) limits role))
      (b.next? (rules (begin role) limits role)) := by
  have hfirst := sameCall_earliest? h.running
  have hlength := h.running.length_eq
  have hwidth : (rules (begin' role) limits role).width = (rules (begin role) limits role).width :=
    rfl
  unfold Batch.next?
  rw [h.waiting, h.clock, hlength]
  revert hfirst
  generalize earliest? b'.running = first'
  generalize earliest? b.running = first
  intro hfirst
  cases hfirst with
  | none =>
    cases b.waiting with
    | nil => exact .none
    | cons o waiting => exact .some (h.start o waiting fun clock s => hbegin role clock o s)
  | some hr =>
    cases b.waiting with
    | nil => exact .some (h.settle hr.1 hr.2)
    | cons o waiting =>
      dsimp only
      rw [hr.1.ends, hwidth]
      split
      next => exact .some (h.start o waiting fun clock s => hbegin role clock o s)
      next => exact .some (h.settle hr.1 hr.2)

/-- A batch under watch has the outcomes and leaves the state that it has and leaves without. -/
theorem shadows_changeAll (elapse : Nat → σ → σ) (limits : Limits) (role : RoleId)
    (operations : List Operation) :
    Shadows (changeAll begin' (watchedElapse elapse) limits role operations)
      (changeAll begin elapse limits role operations) := by
  intro s
  have hstart : Mirrors (Batch.ofOperations operations s) (Batch.ofOperations operations s.1) :=
    ⟨rfl, rfl, .nil, rfl, rfl⟩
  have hend : Mirrors (run (rules (begin' role) limits role) operations s)
      (run (rules (begin role) limits role) operations s.1) :=
    run_relates (Mirrors.next? hbegin) _ _ hstart
  refine ⟨congrArg (List.map Span.outcome) hend.ended, ?_⟩
  show elapse _ _ = elapse _ _
  rw [hend.clock, hend.state]

end Mirror

end FanOut

end Rolebook
