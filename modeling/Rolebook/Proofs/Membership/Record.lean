import Rolebook.Proofs.Membership.Report
import Rolebook.Proofs.Membership.Watched

/-!
# What the record of a batch shows

The record of a batch shows that it is `CarriedOut`: each operation was begun once, and what is
reported of it is what its call answered in time, or else that it took too long. The invariant
behind it is `Tracked`: operations wait, are under way or are over, each of them once, and the
record has just what goes with that. Of a call under way the beginning was seen (`Underway`), and
of one that is over the answer as well, if it was in time (`Over`).
-/

namespace Rolebook.FanOut

variable {σ : Type}

/-! ## What is seen of one call -/

section Call

variable {role : RoleId} {timeout : Nat} {seen extra : List Event} {o : Operation}

/-- A call was seen to begin and not to end, and its end will be seen if it is in time. -/
def Underway (role : RoleId) (timeout : Nat) (seen : List Event) (r : Running (σ × List Event)) :
    Prop :=
  ∃ delay, (∀ d, .began role r.operation d ∈ seen ↔ d = delay) ∧
    (∀ result, .answered role r.operation result ∉ seen) ∧
    if delay ≤ timeout then ∃ finish, r.finish = watchedFinish role r.operation finish
    else r.finish = pure (.error (.overdue r.operation role timeout))

/-- A call was seen to begin, and to end with its result if it was in time. -/
def Over (role : RoleId) (timeout : Nat) (seen : List Event) (x : Span) : Prop :=
  ∃ delay, (∀ d, .began role x.operation d ∈ seen ↔ d = delay) ∧
    if delay ≤ timeout then ∀ result, .answered role x.operation result ∈ seen ↔ result = x.result
    else (∀ result, .answered role x.operation result ∉ seen) ∧
      x.result = .error (.overdue x.operation role timeout)

/-- Events of other calls make no difference to what is seen of one. -/
theorem mem_seen_append (h : ∀ e ∈ extra, ¬ e.On role o) {e : Event} (he : e.On role o) :
    e ∈ seen ++ extra ↔ e ∈ seen := by
  rw [List.mem_append]
  exact ⟨fun hm => hm.resolve_right fun hx => h e hx he, Or.inl⟩

/-- A call under way stays so while other calls go on record. -/
theorem Underway.append {r : Running (σ × List Event)} (h : Underway role timeout seen r)
    (hextra : ∀ e ∈ extra, ¬ e.On role r.operation) :
    Underway role timeout (seen ++ extra) r := by
  obtain ⟨delay, hbegan, hanswered, hfinish⟩ := h
  refine ⟨delay, fun d => ?_, fun result => ?_, hfinish⟩
  · rw [mem_seen_append hextra (Event.on_began ..)]
    exact hbegan d
  · rw [mem_seen_append hextra (Event.on_answered ..)]
    exact hanswered result

/-- A call that is over stays so while other calls go on record. -/
theorem Over.append {x : Span} (h : Over role timeout seen x)
    (hextra : ∀ e ∈ extra, ¬ e.On role x.operation) : Over role timeout (seen ++ extra) x := by
  obtain ⟨delay, hbegan, hresult⟩ := h
  refine ⟨delay, fun d => ?_, ?_⟩
  · rw [mem_seen_append hextra (Event.on_began ..)]
    exact hbegan d
  · have hsame : ∀ result, .answered role x.operation result ∈ seen ++ extra ↔
        .answered role x.operation result ∈ seen := fun _ =>
      mem_seen_append hextra (Event.on_answered ..)
    simp only [hsame]
    exact hresult

/-- Whether a call was in time is whether an answer was seen. -/
theorem Over.inTime_iff {x : Span} (h : Over role timeout seen x) {delay : Nat}
    (hm : .began role x.operation delay ∈ seen) :
    delay ≤ timeout ↔ ∃ result, .answered role x.operation result ∈ seen := by
  obtain ⟨delay', hbegan, hresult⟩ := h
  obtain rfl := (hbegan delay).mp hm
  split at hresult
  next hin => exact ⟨fun _ => ⟨x.result, (hresult x.result).mpr rfl⟩, fun _ => hin⟩
  next hout => exact ⟨fun hin => absurd hin hout, fun ⟨result, ha⟩ => absurd ha (hresult.1 result)⟩

/-- A call succeeded if success was seen. -/
theorem Over.ok_iff {x : Span} (h : Over role timeout seen x) :
    x.result = .ok () ↔ .answered role x.operation (.ok ()) ∈ seen := by
  obtain ⟨delay, -, hresult⟩ := h
  split at hresult
  next => exact ⟨fun hok => (hresult _).mpr hok.symm, fun ha => ((hresult _).mp ha).symm⟩
  next =>
    refine ⟨fun hok => ?_, fun ha => absurd ha (hresult.1 _)⟩
    rw [hresult.2] at hok
    cases hok

/-- A call failed with a fault if that was seen, or with its delay if that was too long. -/
theorem Over.error_iff {x : Span} (h : Over role timeout seen x) {fault : Fault} :
    x.result = .error fault ↔ .answered role x.operation (.error fault) ∈ seen ∨
      ∃ delay, .began role x.operation delay ∈ seen ∧ timeout < delay ∧
        fault = .overdue x.operation role timeout := by
  obtain ⟨delay, hbegan, hresult⟩ := h
  split at hresult
  next hin =>
    constructor
    · exact fun he => Or.inl ((hresult _).mpr he.symm)
    · rintro (ha | ⟨delay', hm, hout, -⟩)
      · exact ((hresult _).mp ha).symm
      · rw [(hbegan delay').mp hm] at hout
        exact absurd hin (Nat.not_le_of_lt hout)
  next hout =>
    rw [hresult.2]
    constructor
    · intro he
      exact Or.inr ⟨delay, (hbegan delay).mpr rfl, Nat.lt_of_not_le hout,
        (Except.error.inj he).symm⟩
    · rintro (ha | ⟨-, -, -, he⟩)
      · exact absurd ha (hresult.1 _)
      · rw [he]

end Call

/-! ## What is seen of a batch -/

section Batch

variable {role : RoleId} {timeout : Nat} {before seen : List Event} {operations : List Operation}
  {b : Batch (σ × List Event)} {limits : Limits} {o : Operation}

/-- A batch and what is seen of it: the operations that do not wait any more were begun, in order;
each operation is over, under way or waiting; and what is seen of it goes with that. -/
structure Tracked (role : RoleId) (timeout : Nat) (before seen : List Event)
    (operations : List Operation) (b : Batch (σ × List Event)) : Prop where
  log : b.state.2 = before ++ seen
  begun : seen.filterMap Event.begun? ++ b.waiting.map (role, ·) = operations.map (role, ·)
  own : ∀ e ∈ seen, ∃ o, e.On role o
  parts : (b.ended.map (·.operation) ++ (b.running.map (·.operation) ++ b.waiting)).Perm operations
  ended : ∀ x ∈ b.ended, Over role timeout seen x
  underway : ∀ r ∈ b.running, Underway role timeout seen r
  answered : ∀ o result, .answered role o result ∈ seen → o ∈ b.ended.map (·.operation)

/-- At the beginning nothing is on record but what was before. -/
theorem tracked_ofOperations (role : RoleId) (timeout : Nat) (before : List Event)
    (operations : List Operation) (s : σ) :
    Tracked role timeout before [] operations (Batch.ofOperations operations (s, before)) where
  log := (List.append_nil before).symm
  begun := rfl
  own _ h := absurd h List.not_mem_nil
  parts := .refl _
  ended _ h := absurd h List.not_mem_nil
  underway _ h := absurd h List.not_mem_nil
  answered _ _ h := absurd h List.not_mem_nil

theorem not_on_of_ne {e : Event} {o o' : Operation} (he : e.On role o) (h : o ≠ o') :
    ¬ e.On role o' := by
  intro he'
  cases e with
  | began => exact h (he.2.symm.trans he'.2)
  | answered => exact h (he.2.symm.trans he'.2)
  | read => exact he
  | asked => exact he

/-- No operation is called twice. -/
theorem Tracked.nodup (h : Tracked role timeout before seen operations b) (hd : operations.Nodup) :
    b.operations.Nodup :=
  h.parts.nodup_iff.mpr hd

/-- Nothing is seen of a call that waits. -/
theorem Tracked.unseen (h : Tracked role timeout before seen operations b) (hd : operations.Nodup)
    {o : Operation} (ho : o ∈ b.waiting) : ∀ e ∈ seen, ¬ e.On role o := by
  intro e hm he
  cases e with
  | began role' o' d =>
    obtain ⟨rfl, rfl⟩ := he
    have hoperations : (operations.map fun o => (role', o)).Nodup :=
      hd.map fun _ _ he => (Prod.mk.inj he).2
    rw [← h.begun] at hoperations
    exact (List.nodup_append.mp hoperations).2.2 _ (List.mem_filterMap.mpr ⟨_, hm, rfl⟩) _
      (List.mem_map_of_mem ho) rfl
  | answered role' o' result =>
    obtain ⟨rfl, rfl⟩ := he
    obtain ⟨x, hx, he⟩ := List.mem_map.mp (h.answered o' result hm)
    exact ne_ended (h.nodup hd) hx (List.mem_append_right _ ho) he.symm
  | read => exact he
  | asked => exact he

/-- A call of which nothing was seen is under way once its beginning is seen. -/
theorem underway_running {begin : RoleId → Nat → Operation → StateM (σ × List Event) _}
    {limits : Limits} (hunseen : ∀ e ∈ seen, ¬ e.On role o) (clock delay : Nat)
    (finish : StateM σ (Except Fault Unit)) :
    Underway role limits.timeout (seen ++ [.began role o delay])
      ((rules (begin role) limits role).running clock o ⟨delay, watchedFinish role o finish⟩) := by
  unfold Underway
  rw [operation_running, finish_running]
  refine ⟨delay, fun d => ?_, fun result hm => ?_, ?_⟩
  · rw [List.mem_append, List.mem_singleton, Event.began.injEq]
    constructor
    · rintro (hm | ⟨-, -, rfl⟩)
      · exact absurd (Event.on_began ..) (hunseen _ hm)
      · rfl
    · rintro rfl
      exact Or.inr ⟨rfl, rfl, rfl⟩
  · rcases List.mem_append.mp hm with hm | hm
    · exact hunseen _ hm (Event.on_answered ..)
    · cases List.mem_singleton.mp hm
  · by_cases hin : delay ≤ limits.timeout
    · rw [if_pos hin]
      exact ⟨finish, if_pos hin⟩
    · rw [if_neg hin]
      exact if_neg hin

/-- A waiting call begins, and that is what is seen. -/
theorem Tracked.start (h : Tracked role limits.timeout before seen operations b)
    (hd : operations.Nodup) (begin : RoleId → Nat → Operation → StateM σ (Pending σ))
    {o : Operation} {waiting : List Operation} (hw : b.waiting = o :: waiting) :
    ∃ e, Tracked role limits.timeout before (seen ++ [e]) operations
      (b.start (rules (watchedBegin begin role) limits role) o waiting) := by
  have ho : o ∈ b.waiting := hw ▸ List.mem_cons_self ..
  have hunseen := h.unseen hd ho
  generalize hbegun : (begin role b.clock o).run b.state.1 = begun
  let e : Event := .began role o begun.1.delay
  have hothers : ∀ {o'}, o ≠ o' → ∀ e' ∈ [e], ¬ e'.On role o' := by
    intro o' hne e' he'
    rw [List.mem_singleton.mp he']
    exact not_on_of_ne (Event.on_began ..) hne
  have hstart : b.start (rules (watchedBegin begin role) limits role) o waiting
      = { b with
          waiting := waiting
          running := b.running ++ [(rules (watchedBegin begin role) limits role).running b.clock o
            ⟨begun.1.delay, watchedFinish role o begun.1.finish⟩]
          state := (begun.2, b.state.2 ++ [e]) } := by
    subst hbegun
    rfl
  rw [hstart]
  refine ⟨e, ?_, ?_, ?_, ?_, ?_, ?_, ?_⟩
  · show b.state.2 ++ [e] = _
    rw [h.log, List.append_assoc]
  · show (seen ++ [e]).filterMap _ ++ waiting.map _ = _
    rw [List.filterMap_append, List.append_assoc, ← h.begun, hw]
    rfl
  · intro e' he'
    rcases List.mem_append.mp he' with he' | he'
    · exact h.own e' he'
    · rw [List.mem_singleton.mp he']
      exact ⟨o, Event.on_began ..⟩
  · rw [← hstart]
    exact .trans (.of_eq (operations_start _ hw)) h.parts
  · intro x hx
    exact (h.ended x hx).append (hothers (ne_ended (h.nodup hd) hx (List.mem_append_right _ ho)))
  · intro r hr
    rcases List.mem_append.mp hr with hr | hr
    · exact (h.underway r hr).append (hothers (ne_underway (h.nodup hd) hr ho))
    · rw [List.mem_singleton.mp hr]
      exact underway_running hunseen b.clock _ _
  · intro o' result hm
    rcases List.mem_append.mp hm with hm | hm
    · exact h.answered o' result hm
    · exact Event.noConfusion (List.mem_singleton.mp hm)

/-- A call under way comes to its end: its answer is seen, or nothing is if it took too long. -/
theorem Underway.finish {r : Running (σ × List Event)} (h : Underway role timeout seen r)
    (s : σ × List Event) (clock : Nat) :
    ∃ extra, (r.finish.run s).2.2 = s.2 ++ extra ∧ (∀ e ∈ extra, e.On role r.operation) ∧
      extra.filterMap Event.begun? = [] ∧
      Over role timeout (seen ++ extra) ⟨r.operation, r.began, clock, (r.finish.run s).1⟩ := by
  obtain ⟨delay, hbegan, hanswered, hfinish⟩ := h
  by_cases hin : delay ≤ timeout
  · rw [if_pos hin] at hfinish
    obtain ⟨finish, hfinish⟩ := hfinish
    rw [hfinish]
    refine ⟨[.answered role r.operation (finish.run s.1).1], rfl, ?_, rfl, delay, fun d => ?_, ?_⟩
    · intro e he
      rw [List.mem_singleton.mp he]
      exact Event.on_answered ..
    · rw [← hbegan d, List.mem_append]
      exact ⟨fun hm => hm.resolve_right fun hx => Event.noConfusion (List.mem_singleton.mp hx),
        Or.inl⟩
    · rw [if_pos hin]
      intro result
      rw [List.mem_append, List.mem_singleton, Event.answered.injEq]
      exact ⟨fun hm => (hm.resolve_left (hanswered result)).2.2, fun he => Or.inr ⟨rfl, rfl, he⟩⟩
  · rw [if_neg hin] at hfinish
    rw [hfinish]
    refine ⟨[], (List.append_nil _).symm, fun e he => absurd he List.not_mem_nil, rfl, ?_⟩
    rw [List.append_nil]
    refine ⟨delay, hbegan, ?_⟩
    rw [if_neg hin]
    exact ⟨hanswered, rfl⟩

/-- A call under way comes to its end, and what is seen is its answer or nothing. -/
theorem Tracked.settle (h : Tracked role timeout before seen operations b) (hd : operations.Nodup)
    {r : Running (σ × List Event)} {rest : List (Running (σ × List Event))}
    (hperm : (r :: rest).Perm b.running) :
    ∃ extra, Tracked role timeout before (seen ++ extra) operations (b.settle r rest) := by
  have hmem : r ∈ b.running := hperm.mem_iff.mp (List.mem_cons_self ..)
  obtain ⟨extra, hstate, hown, hbegun, hover⟩ :=
    (h.underway r hmem).finish b.state (max b.clock r.ends)
  have hothers : ∀ {o}, r.operation ≠ o → ∀ e ∈ extra, ¬ e.On role o := fun hne e he =>
    not_on_of_ne (hown e he) hne
  refine ⟨extra, ?_, ?_, ?_, ?_, ?_, ?_, ?_⟩
  · show (r.finish.run b.state).2.2 = _
    rw [hstate, h.log, List.append_assoc]
  · show (seen ++ extra).filterMap _ ++ b.waiting.map _ = _
    rw [List.filterMap_append, hbegun, List.append_nil]
    exact h.begun
  · intro e he
    rcases List.mem_append.mp he with he | he
    · exact h.own e he
    · exact ⟨_, hown e he⟩
  · exact (operations_settle hperm).trans h.parts
  · intro x hx
    rcases List.mem_append.mp hx with hx | hx
    · have hne := ne_ended (h.nodup hd) hx (List.mem_append_left _ (List.mem_map_of_mem hmem))
      exact (h.ended x hx).append (hothers hne)
    · rw [List.mem_singleton.mp hx]
      exact hover
  · intro r' hr'
    exact (h.underway r' (hperm.mem_iff.mp (List.mem_cons_of_mem _ hr'))).append
      (hothers (settled_ne (h.nodup hd) hperm hr'))
  · intro o result hm
    show o ∈ (b.ended ++ [_]).map _
    rw [List.map_append, List.map_singleton, List.mem_append, List.mem_singleton]
    rcases List.mem_append.mp hm with hm | hm
    · exact Or.inl (h.answered o result hm)
    · exact Or.inr (hown _ hm).2

/-- From the first event to the last, all that is seen goes with what happens. -/
theorem tracked_run (begin : RoleId → Nat → Operation → StateM σ (Pending σ)) (limits : Limits)
    (role : RoleId) (before : List Event) (hd : operations.Nodup) (s : σ) :
    let b := run (rules (watchedBegin begin role) limits role) operations (s, before)
    (∃ seen, Tracked role limits.timeout before seen operations b) ∧
      b.waiting = [] ∧ b.running = [] := by
  refine run_induction (P := fun b => ∃ seen, Tracked role limits.timeout before seen operations b)
    (fun h hs => ?_) _ ⟨[], tracked_ofOperations role limits.timeout before operations s⟩
  obtain ⟨seen, h⟩ := h
  cases hs with
  | start hw =>
    obtain ⟨e, he⟩ := h.start hd begin hw
    exact ⟨_, he⟩
  | settle hr =>
    obtain ⟨extra, hextra⟩ := h.settle hd (earliest?_perm hr)
    exact ⟨_, hextra⟩

end Batch

/-! ## What the record shows -/

/-- What the record of a batch has to do with its operations and with what is reported of them.
Every operation was begun once, in order, on the role, and nothing else was seen. What succeeded
was answered with success; what failed was answered with the fault reported, or it took too long,
and then it was not answered. -/
structure CarriedOut (role : RoleId) (timeout : Nat) (operations : List Operation)
    (seen : List Event) (report : Report) : Prop where
  issued : seen.filterMap Event.begun? = operations.map fun o => (role, o)
  own : ∀ e ∈ seen, ∃ o, e.On role o
  role_eq : report.role = role
  split : (report.succeeded ++ report.failures.map (·.operation)).Perm operations
  inTime : ∀ o delay, .began role o delay ∈ seen →
    (delay ≤ timeout ↔ ∃ result, .answered role o result ∈ seen)
  succeeded : ∀ o, o ∈ report.succeeded ↔ .answered role o (.ok ()) ∈ seen
  failed : ∀ f, f ∈ report.failures ↔ .answered role f.operation (.error f.fault) ∈ seen ∨
    ∃ delay, .began role f.operation delay ∈ seen ∧ timeout < delay ∧
      f.fault = .overdue f.operation role timeout

/-- Where there is nothing to do, nothing goes on record. -/
theorem carriedOut_nil (role : RoleId) (timeout : Nat) :
    CarriedOut role timeout [] [] (.empty role) where
  issued := rfl
  own _ h := absurd h List.not_mem_nil
  role_eq := rfl
  split := .refl _
  inTime _ _ h := absurd h List.not_mem_nil
  succeeded o := ⟨fun h => absurd h List.not_mem_nil, fun h => absurd h List.not_mem_nil⟩
  failed f := by
    refine ⟨fun h => absurd h List.not_mem_nil, ?_⟩
    rintro (h | ⟨_, h, _⟩)
    · exact absurd h List.not_mem_nil
    · exact absurd h List.not_mem_nil

/-- Outcomes are those of calls that took place. -/
theorem mem_outcomes {b : Batch σ} {o : Operation} {result : Except Fault Unit} :
    (⟨o, result⟩ : Outcome) ∈ b.ended.map Span.outcome ↔
      ∃ x ∈ b.ended, x.operation = o ∧ x.result = result := by
  rw [List.mem_map]
  constructor
  · rintro ⟨x, hx, he⟩
    cases he
    exact ⟨x, hx, rfl, rfl⟩
  · rintro ⟨x, hx, rfl, rfl⟩
    exact ⟨x, hx, rfl⟩

/-- When no call is left, what is seen of the batch is what is reported of it. -/
theorem Tracked.carriedOut {role : RoleId} {timeout : Nat} {before seen : List Event}
    {operations : List Operation} {b : Batch (σ × List Event)}
    (h : Tracked role timeout before seen operations b) (hw : b.waiting = [])
    (hr : b.running = []) :
    CarriedOut role timeout operations seen (.ofOutcomes role (b.ended.map Span.outcome)) := by
  have hbegun := h.begun
  have hparts := h.parts
  rw [hw, List.map_nil, List.append_nil] at hbegun
  rw [hw, hr, List.map_nil, List.append_nil, List.append_nil] at hparts
  have hends : ∀ o delay, .began role o delay ∈ seen → o ∈ b.ended.map (·.operation) := by
    intro o delay hm
    have hm : (role, o) ∈ operations.map fun o => (role, o) :=
      hbegun ▸ List.mem_filterMap.mpr ⟨_, hm, rfl⟩
    obtain ⟨o', ho', he⟩ := List.mem_map.mp hm
    cases he
    exact hparts.mem_iff.mpr ho'
  refine ⟨hbegun, h.own, rfl, ?_, fun o delay hm => ?_, fun o => ?_, fun f => ?_⟩
  · refine (Report.succeeded_perm_failures role _).trans ?_
    rw [List.map_map]
    exact hparts
  · obtain ⟨x, hx, rfl⟩ := List.mem_map.mp (hends o delay hm)
    exact (h.ended x hx).inTime_iff hm
  · rw [Report.mem_succeeded_iff, mem_outcomes]
    constructor
    · rintro ⟨x, hx, rfl, hok⟩
      exact (h.ended x hx).ok_iff.mp hok
    · intro ha
      obtain ⟨x, hx, rfl⟩ := List.mem_map.mp (h.answered o _ ha)
      exact ⟨x, hx, rfl, (h.ended x hx).ok_iff.mpr ha⟩
  · rw [Report.mem_failures_iff, mem_outcomes]
    constructor
    · rintro ⟨x, hx, ho, hfault⟩
      rw [← ho]
      exact (h.ended x hx).error_iff.mp hfault
    · intro hf
      have hover : f.operation ∈ b.ended.map (·.operation) := by
        rcases hf with ha | ⟨delay, hm, -⟩
        · exact h.answered f.operation _ ha
        · exact hends f.operation delay hm
      obtain ⟨x, hx, ho⟩ := List.mem_map.mp hover
      have ho : x.operation = f.operation := ho
      rw [← ho] at hf
      exact ⟨x, hx, ho, (h.ended x hx).error_iff.mpr hf⟩

/-- A batch under watch is carried out, and the record shows it. -/
theorem carriedOut_changeAll (begin : RoleId → Nat → Operation → StateM σ (Pending σ))
    (elapse : Nat → σ → σ) (limits : Limits) (role : RoleId) {operations : List Operation}
    (hd : operations.Nodup) (s : σ) (before : List Event) :
    let changed := (changeAll (watchedBegin begin) (watchedElapse elapse) limits role
      operations).run (s, before)
    ∃ seen, changed.2.2 = before ++ seen ∧
      CarriedOut role limits.timeout operations seen (.ofOutcomes role changed.1) := by
  obtain ⟨⟨seen, h⟩, hw, hr⟩ := tracked_run begin limits role before hd s
  exact ⟨seen, h.log, h.carriedOut hw hr⟩

end Rolebook.FanOut
