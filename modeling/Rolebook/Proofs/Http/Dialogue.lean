import Rolebook.Http.Calls

/-!
# Calls as dialogues

What a call does is settled by what it asks a server and what it is told, and by nothing else. A
`Dialogue` is a call in just these terms: it is over, or it makes a request and goes on as the reply
has it. Any way to send requests makes a computation of it (`Dialogue.through`), and every call is
made of a dialogue in that way (`attempt_change`, `attempt_fetchRole`).

So what a call can come to is read off its dialogue (`Dialogue.Says`), and a server that keeps a
record of what is said (`noted`) shows one of the ways that the dialogue can go (`run_through`),
also if the call is not made at one go (`run_advance`).
-/

namespace Rolebook.Http

/-- A request, and what came of it. -/
structure Said where
  request : Request
  reply : Reply

/-- What is asked of a server until the end, where each reply decides how to go on. -/
inductive Dialogue (α : Type) where
  | done (a : α)
  | ask (r : Request) (next : Reply → Dialogue α)

namespace Dialogue

variable {α β : Type}

/-- One dialogue and then another. -/
def andThen : Dialogue α → (α → Dialogue β) → Dialogue β
  | done a, k => k a
  | ask r next, k => ask r fun reply => (next reply).andThen k

instance : Monad Dialogue where
  pure := done
  bind := andThen

/-- The dialogue of a single request. -/
def single : Transport Dialogue := fun r => ask r done

/-! ## Dialogues with a server -/

section Through

variable {m : Type → Type} [Monad m] (send : Transport m)

/-- The computation that a way to send requests makes of a dialogue. -/
def through : Dialogue α → m α
  | done a => pure a
  | ask r next => do (next (← send r)).through

/-- The computation that comes of so many requests of a dialogue, and what is left of it. -/
def advance : Nat → Dialogue α → m (Dialogue α)
  | 0, d => pure d
  | _ + 1, done a => pure (done a)
  | n + 1, ask r next => do (next (← send r)).advance n

variable [LawfulMonad m]

/-- To hold a dialogue and what follows on it is to hold the one and then the other. -/
theorem through_bind (d : Dialogue α) (k : α → Dialogue β) :
    (d >>= k).through send = d.through send >>= fun a => (k a).through send := by
  show (d.andThen k).through send = _
  induction d with
  | done a =>
    rw [through, pure_bind]
    rfl
  | ask r next ih =>
    rw [andThen, through, through, bind_assoc]
    exact bind_congr ih

theorem through_map (f : α → β) (d : Dialogue α) : (f <$> d).through send = f <$> d.through send := by
  show (d >>= fun a => done (f a)).through send = _
  rw [through_bind, map_eq_pure_bind]
  rfl

/-- What is left of a dialogue goes on from there. -/
theorem advance_bind_through (n : Nat) (d : Dialogue α) :
    (d.advance send n >>= fun left => left.through send) = d.through send := by
  induction n generalizing d with
  | zero => exact pure_bind ..
  | succ n ih =>
    cases d with
    | done a => exact pure_bind ..
    | ask r next =>
      rw [advance, through, bind_assoc]
      exact bind_congr fun reply => ih (next reply)

/-- To hold a dialogue of one request is to send it. -/
theorem through_single (r : Request) : (single r).through send = send r := by
  rw [single, through]
  exact bind_pure (send r)

end Through

/-! ## What is said -/

/-- A dialogue can go like this and end so. -/
inductive Says : Dialogue α → List Said → α → Prop where
  | done (a : α) : Says (done a) [] a
  | ask {r : Request} {next : Reply → Dialogue α} {reply : Reply} {talk : List Said} {a : α}
      (h : Says (next reply) talk a) : Says (ask r next) (⟨r, reply⟩ :: talk) a

/-- When a dialogue is over, nothing more is said. -/
theorem says_done_iff {a b : α} {talk : List Said} : (done a).Says talk b ↔ talk = [] ∧ b = a := by
  constructor
  · rintro ⟨⟩
    exact ⟨rfl, rfl⟩
  · rintro ⟨rfl, rfl⟩
    exact .done b

/-- What is said after a request starts with the request and its reply. -/
theorem says_ask_iff {r : Request} {next : Reply → Dialogue α} {talk : List Said} {a : α} :
    (ask r next).Says talk a ↔
      ∃ reply later, talk = ⟨r, reply⟩ :: later ∧ (next reply).Says later a := by
  constructor
  · rintro ⟨⟩
    exact ⟨_, _, rfl, ‹_›⟩
  · rintro ⟨reply, later, rfl, h⟩
    exact .ask h

/-! ## On record -/

section Noted

variable {σ ω : Type} (note : Said → ω) (send : Transport (StateM σ))

/-- A server that keeps a record of what is said. -/
def noted : Transport (StateM (σ × List ω)) := fun r s =>
  let (reply, left) := (send r).run s.1
  (reply, left, s.2 ++ [note ⟨r, reply⟩])

/-- The record of a dialogue is one of the ways it can go, and keeping it makes no difference. -/
theorem run_through (d : Dialogue α) (s : σ) (before : List ω) :
    ∃ talk, (d.through (noted note send)).run (s, before) =
        (((d.through send).run s).1, ((d.through send).run s).2, before ++ talk.map note) ∧
      d.Says talk ((d.through send).run s).1 := by
  induction d generalizing s before with
  | done a => exact ⟨[], by rw [List.map_nil, List.append_nil]; rfl, .done a⟩
  | ask r next ih =>
    obtain ⟨talk, hrun, hway⟩ := ih ((send r).run s).1 ((send r).run s).2
      (before ++ [note ⟨r, ((send r).run s).1⟩])
    refine ⟨⟨r, ((send r).run s).1⟩ :: talk, ?_, .ask hway⟩
    rw [List.map_cons, List.append_cons]
    exact hrun

/-- A record makes no difference either when only the first requests are made, and what is left can
go on from there. -/
theorem run_advance (n : Nat) (d : Dialogue α) (s : σ) (before : List ω) :
    ∃ talk, (d.advance (noted note send) n).run (s, before) =
        (((d.advance send n).run s).1, ((d.advance send n).run s).2, before ++ talk.map note) ∧
      ∀ later a, ((d.advance send n).run s).1.Says later a → d.Says (talk ++ later) a := by
  induction n generalizing d s before with
  | zero => exact ⟨[], by rw [List.map_nil, List.append_nil]; rfl, fun _ _ h => h⟩
  | succ n ih =>
    cases d with
    | done a => exact ⟨[], by rw [List.map_nil, List.append_nil]; rfl, fun _ _ h => h⟩
    | ask r next =>
      obtain ⟨talk, hrun, hway⟩ := ih (next ((send r).run s).1) ((send r).run s).2
        (before ++ [note ⟨r, ((send r).run s).1⟩])
      refine ⟨⟨r, ((send r).run s).1⟩ :: talk, ?_, fun later a h => .ask (hway later a h)⟩
      rw [List.map_cons, List.append_cons]
      exact hrun

end Noted

/-! ## Calls -/

section Attempts

variable {m : Type → Type} [Monad m] (send : Transport m)

/-- What becomes of an attempt in dialogues. -/
def attempt (x : Attempt Dialogue α) : Attempt m α := .mk (x.run.through send)

theorem attempt_ofExcept (r : Except Fault α) : attempt send (liftExcept r) = liftExcept r := by
  cases r <;> rfl

variable [LawfulMonad m]

/-- A dialogue that may fail is held step by step, and stops where it fails. -/
theorem attempt_bind (x : Attempt Dialogue α) (k : α → Attempt Dialogue β) :
    attempt send (x >>= k) = attempt send x >>= fun a => attempt send (k a) := by
  refine ExceptT.ext ?_
  show (x >>= k).run.through send = (attempt send x >>= fun a => attempt send (k a)).run
  rw [ExceptT.run_bind, ExceptT.run_bind, through_bind]
  refine bind_congr fun result => ?_
  cases result <;> rfl

theorem attempt_lift (d : Dialogue α) :
    attempt send (ExceptT.lift d) = ExceptT.lift (d.through send) :=
  ExceptT.ext (through_map send Except.ok d)

theorem attempt_exchange (b : Backend) (c : Gateway.Call) :
    attempt send (exchange single b c) = exchange send b c := by
  simp only [exchange, attempt_bind, attempt_ofExcept, attempt_lift, through_single]

theorem attempt_fetchRole (b : Backend) (c : Gateway.Call) :
    attempt send (fetchRole single b c) = fetchRole send b c := by
  simp only [fetchRole, fetch, attempt_bind, attempt_ofExcept, attempt_exchange]

/-- A membership call is made of its dialogue, whatever the way to send its requests. -/
theorem attempt_change (b : Backend) (id : RoleId) (o : Operation) :
    attempt send (change single b id o) = change send b id o := by
  have hexchange : ((exchange single b (.change id o)).run).through send
      = (exchange send b (.change id o)).run := congrArg ExceptT.run (attempt_exchange send b _)
  rw [change, change, attempt_bind, attempt_lift, hexchange]
  refine bind_congr fun result => ?_
  cases result with
  | ok success => cases o <;> rfl
  | error fault =>
    cases o with
    | assign u =>
      dsimp only
      split <;> rfl
    | unassign u =>
      dsimp only
      split
      · rw [attempt_bind, attempt_fetchRole]
        rfl
      · rfl

/-- A membership call is the dialogue of the same call, held with the server. -/
theorem through_change (b : Backend) (id : RoleId) (o : Operation) :
    (change single b id o).run.through send = (change send b id o).run :=
  congrArg ExceptT.run (attempt_change send b id o)

end Attempts

end Dialogue

end Rolebook.Http
