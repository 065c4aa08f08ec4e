import Rolebook.Proofs.Administrator.Watched
import Rolebook.Proofs.Membership.Turns
import Rolebook.Proofs.Store.Run

/-!
# A plan within bounds

What it comes to to carry out a plan when each call takes its own time and has its own answer
(`Conduct`), whatever the calls do to the backend. No more of them are under way at once than the
limits allow; each operation is called once; and what is reported of it is what its own call came
to, cut short at the timeout. None of this depends on the order in which the calls begin and end.

Two facts carry this. Every call under way has its result settled when it begins, so no other call
can change it (`Answers`); and a report does not show the order of its outcomes, so that all orders
lead to one report (`completes_of_over`).
-/

namespace Rolebook

open Relation (ReflTransGen)

variable {σ : Type}

namespace FanOut

/-! ## Calls that go their own way -/

/-- How calls go: how long each takes, what it answers, and what it does to the backend when it
begins and when it ends by itself. -/
structure Conduct (σ : Type) where
  delay : Operation → Nat
  answer : Operation → Except Fault Unit
  enter : Operation → σ → σ
  leave : Operation → σ → σ

namespace Conduct

/-- The beginning of a call. -/
def begin (c : Conduct σ) (_ : RoleId) (_ : Nat) (o : Operation) : StateM σ (Pending σ) := fun s =>
  (⟨c.delay o, fun s => (c.answer o, c.leave o s)⟩, c.enter o s)

/-- What a call comes to: its own answer, unless it takes too long. -/
def result (c : Conduct σ) (role : RoleId) (timeout : Nat) (o : Operation) : Except Fault Unit :=
  if c.delay o ≤ timeout then c.answer o else .error (.overdue o role timeout)

/-- An operation with what its call comes to. -/
def outcome (c : Conduct σ) (role : RoleId) (timeout : Nat) (o : Operation) : Outcome :=
  ⟨o, c.result role timeout o⟩

end Conduct

variable {c : Conduct σ} {role : RoleId} {limits : Limits} {b b' : Batch (σ × List Event)}

/-- The calls under way will have the results that are theirs, whatever state they end in, and the
calls that have ended had them. -/
structure Answers (c : Conduct σ) (role : RoleId) (timeout : Nat)
    (b : Batch (σ × List Event)) : Prop where
  underway : ∀ r ∈ b.running, ∀ s, (r.finish.run s).1 = c.result role timeout r.operation
  ended : ∀ x ∈ b.ended, x.result = c.result role timeout x.operation

/-- Before the first turn nothing has been called, and nothing has been answered. -/
theorem answers_ofOperations (c : Conduct σ) (role : RoleId) (timeout : Nat)
    (operations : List Operation) (s : σ × List Event) :
    Answers c role timeout (Batch.ofOperations operations s) where
  underway _ h := absurd h List.not_mem_nil
  ended _ h := absurd h List.not_mem_nil

/-- A call is given its result when it begins. -/
theorem result_running (c : Conduct σ) (limits : Limits) (role : RoleId) (clock : Nat)
    (o : Operation) (s s' : σ × List Event) :
    (((rules (watchedBegin c.begin role) limits role).running clock o
      ((watchedBegin c.begin role clock o).run s).1).finish.run s').1
      = c.result role limits.timeout o := by
  rw [finish_running, Conduct.result]
  show (StateT.run (if c.delay o ≤ limits.timeout then
    watchedFinish role o fun s => (c.answer o, c.leave o s) else _) s').1 = _
  split
  next => rfl
  next => rfl

/-- A turn of a batch either begins a call or takes the answer of one, and both are as the conduct
says. -/
theorem Answers.turn (h : Answers c role limits.timeout b)
    (ht : Turn (rules (watchedBegin c.begin role) limits role) b b') :
    Answers c role limits.timeout b' := by
  cases ht with
  | @start o waiting _ _ =>
    refine ⟨fun r hr s => ?_, h.ended⟩
    rcases List.mem_append.mp hr with hr | hr
    · exact h.underway r hr s
    · rw [List.mem_singleton.mp hr, operation_running]
      exact result_running c limits role b.clock o b.state s
  | @settle r rest parts _ =>
    refine ⟨fun r' hr' => h.underway r' (parts.mem_iff.mp (List.mem_cons_of_mem r hr')),
      fun x hx => ?_⟩
    rcases List.mem_append.mp hx with hx | hx
    · exact h.ended x hx
    · rw [List.mem_singleton.mp hx]
      exact h.underway r (parts.mem_iff.mp (List.mem_cons_self ..)) b.state

/-- The outcomes of a batch are those its calls have by themselves. -/
theorem Answers.map_outcome {timeout : Nat} (h : Answers c role timeout b) :
    b.ended.map Span.outcome = (b.ended.map (·.operation)).map (c.outcome role timeout) := by
  rw [List.map_map]
  refine List.map_congr_left fun x hx => ?_
  rw [Span.outcome, h.ended x hx]
  rfl

/-- A batch that is over: each operation of the plan was called once, in order, on the plan's role,
and this is the report. -/
structure Completes (plan : Plan) (report : Report) (b : Batch (σ × List Event)) : Prop where
  waiting : b.waiting = []
  running : b.running = []
  calls : b.state.2.filterMap Event.begun? = plan.operations.map fun o => (plan.role, o)
  report_eq : .ofOutcomes plan.role (b.ended.map Span.outcome) = report

/-- Whatever the order was, a batch that is over has the report that is made of what the calls come
to. -/
theorem completes_of_over {plan : Plan} {s : σ}
    (hb : ReflTransGen (Turn (rules (watchedBegin c.begin plan.role) limits plan.role))
      (Batch.ofOperations plan.operations (s, [])) b)
    (hw : b.waiting = []) (hr : b.running = []) :
    Completes plan
      (.ofOutcomes plan.role (plan.operations.map (c.outcome plan.role limits.timeout))) b := by
  obtain ⟨seen, h⟩ := tracked_turns plan.nodup_operations hb
  have hanswers : Answers c plan.role limits.timeout b :=
    turns_induction Answers.turn (answers_ofOperations ..) hb
  have hcalls := h.begun
  have hparts := h.parts
  rw [hw, List.map_nil, List.append_nil] at hcalls
  rw [hw, hr, List.map_nil, List.append_nil, List.append_nil] at hparts
  refine ⟨hw, hr, by rw [h.log]; exact hcalls, ?_⟩
  -- the calls have ended in some order of the operations, which the report does not show
  rw [hanswers.map_outcome]
  refine Report.ofOutcomes_perm plan.role (hparts.map _) ?_
  have hoperations : ((b.ended.map (·.operation)).map (c.outcome plan.role limits.timeout)).map
      (·.operation) = b.ended.map (·.operation) := by
    rw [List.map_map]
    exact List.map_id _
  have hnodup : (b.ended.map (·.operation)).Nodup := hparts.nodup_iff.mpr plan.nodup_operations
  rw [← hoperations, ← (Report.filterMap_perm_operations _).nodup_iff] at hnodup
  exact (List.nodup_append.mp hnodup).2.1

end FanOut

namespace Administrator

open FanOut (Conduct Turn Within Completes Batch)
open Store (ada editorsId someMoment)

/-! ## Carrying out a plan -/

/-- What is reported of each operation of a plan is what its own call came to. -/
structure TellsOwn (c : Conduct σ) (timeout : Nat) (plan : Plan) (report : Report) : Prop where
  determined : report = .ofOutcomes plan.role (plan.operations.map (c.outcome plan.role timeout))
  attempted : report.attempted = plan.size
  succeeded : ∀ o, o ∈ report.succeeded ↔
    o ∈ plan.operations ∧ c.result plan.role timeout o = .ok ()
  failed : ∀ f, f ∈ report.failures ↔
    f.operation ∈ plan.operations ∧ c.result plan.role timeout f.operation = .error f.fault
  late : ∀ o ∈ plan.operations, timeout < c.delay o →
    ∃ f ∈ report.failures, f.operation = o ∧ f.fault.kind = .timeout

/-- Each operation has one outcome, its own. -/
theorem mem_map_outcome {c : Conduct σ} {role : RoleId} {timeout : Nat} {os : List Operation}
    {o : Operation} {result : Except Fault Unit} :
    (⟨o, result⟩ : Outcome) ∈ os.map (c.outcome role timeout) ↔
      o ∈ os ∧ c.result role timeout o = result := by
  rw [List.mem_map]
  constructor
  · rintro ⟨o', ho, he⟩
    cases he
    exact ⟨ho, rfl⟩
  · rintro ⟨ho, rfl⟩
    exact ⟨o, ho, rfl⟩

/-- A report of the outcomes that calls have by themselves tells each operation's own. -/
theorem tellsOwn (c : Conduct σ) (timeout : Nat) (plan : Plan) :
    TellsOwn c timeout plan
      (.ofOutcomes plan.role (plan.operations.map (c.outcome plan.role timeout))) where
  determined := rfl
  attempted := by
    have hlength := (Report.succeeded_perm_failures plan.role
      (plan.operations.map (c.outcome plan.role timeout))).length_eq
    rw [List.length_append, List.length_map, List.length_map, List.length_map,
      Plan.length_operations] at hlength
    exact hlength
  succeeded o := Report.mem_succeeded_iff.trans mem_map_outcome
  failed f := Report.mem_failures_iff.trans mem_map_outcome
  late o ho hlate := by
    refine ⟨⟨o, .overdue o plan.role timeout⟩, ?_, rfl, rfl⟩
    refine Report.mem_failures_iff.mpr (mem_map_outcome.mpr ⟨ho, ?_⟩)
    exact if_neg (Nat.not_le_of_lt hlate)

/-- There is always room for one call. -/
theorem width_pos (begin : Nat → Operation → StateM σ (Pending σ)) (limits : Limits)
    (role : RoleId) : 0 < (FanOut.rules begin limits role).width :=
  Nat.le_max_left 1 limits.concurrency

/-- A width of zero already counts as one in the rules of a batch. -/
theorem rules_effective (begin : Nat → Operation → StateM σ (Pending σ)) (limits : Limits)
    (role : RoleId) :
    FanOut.rules begin limits.effective role = FanOut.rules begin limits role := by
  have hwidth : max 1 (max 1 limits.concurrency) = max 1 limits.concurrency := by omega
  show (⟨max 1 (max 1 limits.concurrency), _, _, _⟩ : FanOut.Rules σ) = _
  rw [hwidth]
  rfl

/-- Carrying out a plan takes one of the orders there are, to its end. -/
theorem execute_turns (g : Gateway (StateM σ)) (c : Conduct σ) (elapse : Nat → σ → σ)
    (limits : Limits) (plan : Plan) (s : σ) :
    let executed := ((⟨g.watched c.begin elapse, limits⟩ : Administrator _).execute plan).run (s, [])
    ∃ b, ReflTransGen
        (Turn (FanOut.rules (FanOut.watchedBegin c.begin plan.role) limits plan.role))
        (.ofOperations plan.operations (s, [])) b ∧
      b.waiting = [] ∧ b.running = [] ∧
      executed.1 = .ofOutcomes plan.role (b.ended.map Span.outcome) ∧ executed.2.2 = b.state.2 := by
  dsimp only
  rw [run_execute]
  cases he : plan.isEmpty with
  | true =>
    -- nothing is called for an empty plan, and a batch of nothing is over at once
    rw [Plan.operations_eq_nil_iff.mpr he, if_pos rfl]
    exact ⟨_, .refl, rfl, rfl, (Report.ofOutcomes_nil plan.role).symm, rfl⟩
  | false =>
    obtain ⟨hreaches, hwaiting, hrunning⟩ :=
      FanOut.reaches_run (width_pos (FanOut.watchedBegin c.begin plan.role) limits plan.role)
        (.ofOperations plan.operations (s, []))
    refine ⟨_, hreaches, hwaiting, hrunning, ?_⟩
    rw [← rules_effective]
    exact ⟨rfl, rfl⟩

/-- **A bounded fan-out.** A plan is carried out with calls that take any time and answer anything,
and the limits are any limits. It ends in a report on as many operations as the plan has, and what
is reported of each is the result of its own call: the answer if it came within the timeout, and a
timeout if the call took longer. Each operation is called once.

The same goes for every order in which calls may begin and end: it is bounded in length, at every
moment of it at most `max 1 limits.concurrency` calls are under way, and it ends in the same
report. -/
theorem execute_bounded (g : Gateway (StateM σ)) (c : Conduct σ) (elapse : Nat → σ → σ)
    (limits : Limits) (plan : Plan) (s : σ) :
    let unwatched : Administrator (StateM σ) := ⟨g.batching c.begin elapse, limits⟩
    let watched : Administrator (StateM (σ × List Event)) := ⟨g.watched c.begin elapse, limits⟩
    let executed := (watched.execute plan).run (s, [])
    let rules := FanOut.rules (FanOut.watchedBegin c.begin plan.role) limits plan.role
    let first := Batch.ofOperations plan.operations (s, [])
    (unwatched.execute plan).run s = (executed.1, executed.2.1) ∧
    TellsOwn c limits.timeout plan executed.1 ∧
    (∃ b, ReflTransGen (Turn rules) first b ∧ Completes plan executed.1 b ∧
      executed.2.2 = b.state.2) ∧
    WellFounded (fun b' b => Turn rules b b') ∧
    ∀ b, ReflTransGen (Turn rules) first b →
      Within (max 1 limits.concurrency) b ∧
      ((∀ b', ¬ Turn rules b b') → Completes plan executed.1 b) := by
  intro unwatched watched executed rules first
  have hsame : Shadows (watched.execute plan) (unwatched.execute plan) :=
    shadows_iff_alike.mpr (alike_execute limits (alikeGateways_watched g c.begin elapse) plan)
  obtain ⟨hresult, hstate⟩ := hsame (s, [])
  obtain ⟨b, hreaches, hwaiting, hrunning, hreport, hseen⟩ :=
    execute_turns g c elapse limits plan s
  have hcompletes := FanOut.completes_of_over hreaches hwaiting hrunning
  have hdetermined : executed.1 =
      .ofOutcomes plan.role (plan.operations.map (c.outcome plan.role limits.timeout)) :=
    hreport.trans hcompletes.report_eq
  rw [hdetermined]
  refine ⟨Prod.ext ?_ hstate.symm, tellsOwn c limits.timeout plan, ⟨b, hreaches, hcompletes, hseen⟩,
    FanOut.wellFounded_turn rules, fun b hb => ⟨?_, fun hstuck => ?_⟩⟩
  · exact hresult.symm.trans hdetermined
  · have hwithin : Within rules.width b :=
      FanOut.turns_induction Within.turn (FanOut.within_ofOperations ..) hb
    exact hwithin
  · obtain ⟨hwaiting, hrunning⟩ := (FanOut.stuck_iff (width_pos ..)).mp hstuck
    exact FanOut.completes_of_over hb hwaiting hrunning

/-- One user is to get the role and one to lose it, and the first call takes too long. -/
def swap : Plan := .ofOperations editorsId [.assign ada.id, .unassign ⟨⟨6, by decide⟩⟩]

/-- Giving the role takes as many milliseconds as it may, and one more. -/
def sluggish : Conduct Store where
  delay
    | .assign _ => 10001
    | .unassign _ => 0
  answer _ := .ok ()
  enter _ s := s
  leave _ s := s

/-- With no calls let through at once, the two calls are still made, one at a time. The one is given
up, and the other is not the worse for it. -/
theorem execute_bounded_sluggish :
    let limits : Limits := { concurrency := 0 }
    let g := Store.gateway someMoment.fresh someMoment.now
    let a : Administrator (StateM (Store × List Event)) :=
      ⟨g.watched sluggish.begin fun _ s => s, limits⟩
    let report := ((a.execute swap).run (.empty, [])).1
    let rules := FanOut.rules (FanOut.watchedBegin sluggish.begin editorsId) limits editorsId
    report.attempted = 2 ∧
    ⟨.assign ada.id, .overdue (.assign ada.id) editorsId 10000⟩ ∈ report.failures ∧
    .unassign ⟨⟨6, by decide⟩⟩ ∈ report.succeeded ∧
    ∃ b, ReflTransGen (Turn rules) (.ofOperations swap.operations (.empty, [])) b ∧
      (∀ b', ¬ Turn rules b b') ∧ Within 1 b ∧ Completes swap report b := by
  intro limits g a report rules
  obtain ⟨-, htells, ⟨b, hreaches, hcompletes, -⟩, -, horders⟩ :=
    execute_bounded g sluggish (fun _ s => s) limits swap .empty
  have hstuck : ∀ b', ¬ Turn rules b b' :=
    (FanOut.stuck_iff (width_pos ..)).mpr ⟨hcompletes.waiting, hcompletes.running⟩
  obtain ⟨hwithin, hends⟩ := horders b hreaches
  exact ⟨htells.attempted.trans (by decide), (htells.failed _).mpr ⟨by decide, by decide⟩,
    (htells.succeeded _).mpr ⟨by decide, by decide⟩, b, hreaches, hstuck, hwithin, hends hstuck⟩

end Administrator

end Rolebook
