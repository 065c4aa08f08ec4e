import Rolebook.Gateway

/-!
# Fan-out

A batch of calls, carried out with no more than so many of them under way at once, each given up
after so long. Time passes only while calls are under way, and it is counted from the start of the
batch. Of two calls that end at the same time, the one that began first ends first, and both end
before another call begins.

The state `σ` is the backend's. A call touches it twice: when it begins, and when it ends; a call
that is given up touches it only once.
-/

namespace Rolebook

/-- A call that has begun: how long it takes, and what it does at its end. -/
structure Pending (σ : Type) where
  delay : Nat
  finish : StateM σ (Except Fault Unit)

/-- A call that took place. -/
structure Span where
  operation : Operation
  began : Nat
  ended : Nat
  result : Except Fault Unit

namespace Span

/-- Whether the call was under way at a time. -/
def covers (s : Span) (t : Nat) : Bool :=
  s.began ≤ t && t < s.ended

/-- What became of the operation. -/
def outcome (s : Span) : Outcome := ⟨s.operation, s.result⟩

end Span

namespace FanOut

variable {σ : Type}

/-- A call under way, and what is left to do when its time is over. -/
structure Running (σ : Type) where
  operation : Operation
  began : Nat
  ends : Nat
  finish : StateM σ (Except Fault Unit)

/-- A batch at some moment. Calls under way are listed in the order they began, calls that took
place in the order they ended. -/
structure Batch (σ : Type) where
  clock : Nat
  waiting : List Operation
  running : List (Running σ)
  ended : List Span
  state : σ

/-- How calls are made: how many at once, how long each may take, what the failure of one that takes
longer is, and how one begins at a given time. -/
structure Rules (σ : Type) where
  width : Nat
  timeout : Nat
  overdue : Operation → Fault
  begin : Nat → Operation → StateM σ (Pending σ)

/-- The call that has begun, cut short at the timeout. -/
def Rules.running (rules : Rules σ) (clock : Nat) (o : Operation) (p : Pending σ) : Running σ :=
  -- a call that takes just as long as it may still ends by itself
  if p.delay ≤ rules.timeout then ⟨o, clock, clock + p.delay, p.finish⟩
  else ⟨o, clock, clock + rules.timeout, pure (.error (rules.overdue o))⟩

/-- The call that ends next, and the others. -/
def earliest? : List (Running σ) → Option (Running σ × List (Running σ))
  | [] => none
  | r :: rs =>
    match earliest? rs with
    | none => some (r, [])
    | some (first, rest) => if r.ends ≤ first.ends then some (r, rs) else some (first, r :: rest)

/-- Taking out the call that ends first leaves one call fewer. -/
theorem length_earliest? {rs rest : List (Running σ)} {r : Running σ}
    (h : earliest? rs = some (r, rest)) : rs.length = rest.length + 1 := by
  induction rs generalizing r rest with
  | nil => cases h
  | cons x xs ih =>
    unfold earliest? at h
    split at h
    · next hn =>
      cases xs with
      | nil => cases h; rfl
      | cons y ys =>
        unfold earliest? at hn
        split at hn
        · cases hn
        · split at hn <;> cases hn
    · next first others hs =>
      split at h
      · cases h; rfl
      · cases h
        have := ih hs
        simp only [List.length_cons]
        omega

/-- The batch after a call has begun. -/
def Batch.start (b : Batch σ) (rules : Rules σ) (o : Operation) (waiting : List Operation) :
    Batch σ :=
  let begun := (rules.begin b.clock o).run b.state
  { b with
    waiting := waiting
    running := b.running ++ [rules.running b.clock o begun.1]
    state := begun.2 }

/-- The batch after a call has ended. -/
def Batch.settle (b : Batch σ) (r : Running σ) (rest : List (Running σ)) : Batch σ :=
  let finished := r.finish.run b.state
  let clock := max b.clock r.ends
  ⟨clock, b.waiting, rest, b.ended ++ [⟨r.operation, r.began, clock, finished.1⟩], finished.2⟩

/-- The next event: a call whose time is over ends, or else a waiting call begins if there is room,
or else time goes on to the end of a call. -/
def Batch.next? (rules : Rules σ) (b : Batch σ) : Option (Batch σ) :=
  match earliest? b.running, b.waiting with
  | none, [] => none
  | none, o :: waiting => some (b.start rules o waiting)
  | some (r, rest), [] => some (b.settle r rest)
  | some (r, rest), o :: waiting =>
    -- a call whose time is over makes room before another begins
    if b.clock < r.ends ∧ b.running.length < rules.width then some (b.start rules o waiting)
    else some (b.settle r rest)

/-- What is left to happen. -/
def Batch.work (b : Batch σ) : Nat := 2 * b.waiting.length + b.running.length

/-- A call that begins is no longer waiting: of the two things left to do with it, one is done. -/
theorem work_start (rules : Rules σ) (b : Batch σ) {o : Operation} {waiting : List Operation}
    (h : b.waiting = o :: waiting) : (b.start rules o waiting).work < b.work := by
  simp only [Batch.work, Batch.start, h, List.length_append, List.length_cons, List.length_nil]
  omega

/-- A call that ends is neither waiting nor running. -/
theorem work_settle (b : Batch σ) {r : Running σ} {rest : List (Running σ)}
    (h : earliest? b.running = some (r, rest)) : (b.settle r rest).work < b.work := by
  have := length_earliest? h
  simp only [Batch.work, Batch.settle]
  omega

/-- Each step of a batch leaves less to do, so a batch comes to its end. -/
theorem work_next? {rules : Rules σ} {b b' : Batch σ} (h : b.next? rules = some b') :
    b'.work < b.work := by
  unfold Batch.next? at h
  split at h
  · cases h
  · next hw => cases h; exact work_start rules b hw
  · next hr hw => cases h; exact work_settle b hr
  · next hr hw =>
    split at h
    · cases h; exact work_start rules b hw
    · cases h; exact work_settle b hr

/-- All events one after the other. -/
def Batch.run (rules : Rules σ) (b : Batch σ) : Batch σ :=
  match h : b.next? rules with
  | some b' =>
    have := work_next? h
    b'.run rules
  | none => b
termination_by b.work

/-- A batch before its first event. -/
def Batch.ofOperations (operations : List Operation) (s : σ) : Batch σ :=
  ⟨0, operations, [], [], s⟩

/-- A batch from its first event to its last. -/
def run (rules : Rules σ) (operations : List Operation) (s : σ) : Batch σ :=
  (Batch.ofOperations operations s).run rules

/-- The rules for changing the members of a role within limits. -/
def rules (begin : Nat → Operation → StateM σ (Pending σ)) (limits : Limits) (role : RoleId) :
    Rules σ where
  width := limits.effective.concurrency
  timeout := limits.timeout
  overdue o := .overdue o role limits.timeout
  begin := begin

/-- A batch of changes to the members of a role. `elapse` is what the time that the batch takes does
to the state. -/
def changeAll (begin : RoleId → Nat → Operation → StateM σ (Pending σ)) (elapse : Nat → σ → σ)
    (limits : Limits) (role : RoleId) (operations : List Operation) : StateM σ (List Outcome) :=
  fun s =>
    let b := run (rules (begin role) limits role) operations s
    (b.ended.map Span.outcome, elapse b.clock b.state)

end FanOut

end Rolebook
