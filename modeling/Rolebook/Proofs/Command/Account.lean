import Rolebook.Proofs.Administrator.Guarded
import Rolebook.Proofs.Command.Exit
import Rolebook.Proofs.Command.Lines
import Rolebook.Proofs.Store.DryRun

/-!
# What a save tells of its operations

A `sync` that is no dry run answers with lines, and these account for all that it did: one line for
each operation of its plan, in the order of the plan and those that succeeded first, then the
counts, and then what is known of the members, unless everything failed (`Output.Accounts`).

There are two ways to such an answer. A batch in which something succeeded, or which had nothing to
do, comes as a report (`accounts_ofSaved`); a batch in which everything failed comes as a fault with
its failures (`accounts_ofFailures`). What is told is the same, and it is what the record shows.
-/

namespace Rolebook

namespace Output

/-- An answer accounts for the operations of a plan, as they are reported. -/
structure Accounts (output : Output) (r : Role) (operations : List Operation) (report : Report)
    (confirmed : Option (SortedSet UserId)) : Prop where
  succeeded_inOrder : report.succeeded.Sublist operations
  failures_inOrder : (report.failures.map (·.operation)).Sublist operations
  /-- The lines, word for word. -/
  lines :
    let done := report.succeeded
    let failed := report.failures
    output.lines = done.map (fun o => s!"ok {named o}") ++
      failed.map (fun f => s!"failed {named f.operation}: {f.fault.message}") ++
      s!"status: {label output.status} ({done.length} succeeded, {failed.length} failed)" ::
        if output.status = .failed then []
        else
          match confirmed with
          | some members => [s!"role {r.name.text} now has {members.size} members"]
          | none => [s!"members of role {r.name.text} could not be confirmed"]
  succeededOnce : ∀ o, output.lines.count s!"ok {named o}" = if o ∈ report.succeeded then 1 else 0
  failedOnce : ∀ o, output.lines.countP (tellsFailure o) =
    if o ∈ report.failures.map (·.operation) then 1 else 0
  succeeded_iff : output.status = .succeeded ↔ report.failures = []
  failed_iff : output.status = .failed ↔ operations ≠ [] ∧ report.succeeded = []
  partially_iff : output.status = .partiallySucceeded ↔
    report.failures ≠ [] ∧ report.succeeded ≠ []

variable {r : Role} {plan : Plan} {report : Report} {output : Output}
  {confirmed : Option (SortedSet UserId)}

/-- The lines and the status are all that is left to know of an answer. -/
theorem accounts_of_lines (horder : report.InOrder)
    (hsplit : (report.succeeded ++ report.failures.map (·.operation)).Perm plan.operations)
    (hstatus : output.status = report.status)
    (hlines : output.lines = reportLines report ++
      statusLine output.status report.succeeded.length report.failures.length ::
        if output.status = .failed then [] else [confirmationLine r confirmed]) :
    output.Accounts r plan.operations report confirmed := by
  have hsucceeded : report.succeeded.Sublist plan.operations :=
    Report.sublist_operations ((List.sublist_append_left ..).subperm.trans hsplit.subperm)
      horder.succeeded
  have hfailures : (report.failures.map (·.operation)).Sublist plan.operations :=
    Report.sublist_operations ((List.sublist_append_right ..).subperm.trans hsplit.subperm)
      horder.failures
  have hapart : Apart (statusLine output.status report.succeeded.length report.failures.length ::
      if output.status = .failed then [] else [confirmationLine r confirmed]) := by
    refine apart_statusLine ?_
    split
    next => exact fun _ hline => absurd hline List.not_mem_nil
    next => exact apart_confirmationLine r confirmed
  have hnone : report.failures ≠ [] ∧ report.succeeded = [] ↔
      plan.operations ≠ [] ∧ report.succeeded = [] := by
    refine and_congr_left fun hnil => not_congr ?_
    rw [hnil, List.nil_append] at hsplit
    rw [← List.length_eq_zero_iff, ← List.length_eq_zero_iff, ← hsplit.length_eq, List.length_map]
  refine ⟨hsucceeded, hfailures, ?_, fun o => ?_, fun o => ?_, ?_, ?_, ?_⟩
  · rw [hlines, reportLines_eq, statusLine_eq]
    cases confirmed <;> rfl
  · rw [hlines, ← successLine_eq]
    exact count_successLine hapart (plan.nodup_operations.sublist hsucceeded) o
  · rw [hlines]
    exact countP_tellsFailure hapart (plan.nodup_operations.sublist hfailures) o
  · rw [hstatus, Report.status_eq_succeeded_iff]
  · rw [hstatus, Report.status_eq_failed_iff, hnone]
  · rw [hstatus, Report.status_eq_partiallySucceeded_iff]

/-- The answer to a save of which something succeeded, or which had nothing to do. -/
theorem accounts_ofSaved (horder : report.InOrder)
    (hsplit : (report.succeeded ++ report.failures.map (·.operation)).Perm plan.operations)
    (hsome : ¬ (plan.operations ≠ [] ∧ report.succeeded = [])) :
    (ofSaved r ⟨plan, report, confirmed⟩).Accounts r plan.operations report confirmed := by
  refine accounts_of_lines horder hsplit rfl ?_
  have hstatus : report.status ≠ .failed := fun hfailed => by
    obtain ⟨hfailures, hnone⟩ := report.status_eq_failed_iff.mp hfailed
    refine hsome ⟨fun hnil => hfailures ?_, hnone⟩
    rw [hnil, hnone] at hsplit
    exact List.map_eq_nil_iff.mp hsplit.eq_nil
  show _ = _ ++ _ :: if report.status = .failed then _ else _
  rw [if_neg hstatus]
  rfl

/-- The answer to a save of which nothing succeeded, though there was something to do. -/
theorem accounts_ofFailures (horder : (Report.ofFailures r.id report.failures).InOrder)
    (hsplit : (report.succeeded ++ report.failures.map (·.operation)).Perm plan.operations)
    (hall : plan.operations ≠ [] ∧ report.succeeded = []) :
    (ofFailures plan.size report.failures).Accounts r plan.operations report confirmed := by
  have hnone := hall.2
  have hsize : plan.size = report.failures.length := by
    rw [← Plan.length_operations, ← hsplit.length_eq, hnone, List.nil_append, List.length_map]
  refine accounts_of_lines ⟨?_, horder.failures⟩ hsplit ?_ ?_
  · rw [hnone]
    exact List.Pairwise.nil
  · refine (report.status_eq_failed_iff.mpr ⟨fun hnil => hall.1 ?_, hnone⟩).symm
    rw [hnil, hnone] at hsplit
    exact hsplit.symm.eq_nil
  · rw [reportLines, hnone, ofFailures, hsize, allFailedLine_eq]
    rfl

end Output

/-! ## What is seen of a save -/

namespace Command

open Administrator (idsOf run_of_alike_watched)
open FanOut (CarriedOut)

variable {σ : Type} (g : Gateway (StateM σ))
  (begin : RoleId → Nat → Operation → StateM σ (Pending σ)) (elapse : Nat → σ → σ) (limits : Limits)

/-- An answer accounts for the operations that were begun, and without an answer none was. -/
theorem accounts_replaceMembers (r : Role) (desired : List UserId) (s : σ) (before : List Event) :
    let ran := (replaceMembers ⟨g.watched begin elapse, limits⟩ r desired).run.run (s, before)
    (∀ fault, ran.1 = .error fault → ran.2.2 = before ++ [.read r.id (.error fault)]) ∧
    ∀ output, ran.1 = .ok output → ∃ users batch report second,
      let plan := Plan.compute r.id (idsOf users).toList desired
      ran.2.2 = before ++ [.read r.id (.ok users)] ++ batch ++
        (if output.status = .failed then [] else [.read r.id second]) ∧
      CarriedOut r.id limits.timeout plan.operations batch report ∧
      output.Accounts r plan.operations report (second.toOption.map idsOf) := by
  have hsaved := Administrator.run_saveMembers_watched g begin elapse limits r.id desired s before
  have horder := Administrator.inOrder_saveMembers (⟨g.watched begin elapse, limits⟩ :
    Administrator _) r.id desired (s, before)
  rw [run_replaceMembers, ← Administrator.startSave, Administrator.startSave_ofList]
  dsimp only at hsaved ⊢
  generalize ((⟨g.watched begin elapse, limits⟩ : Administrator _).saveMembers r.id desired).run.run
    (s, before) = saved at hsaved horder ⊢
  cases hmembers : ((g.listMembers r.id).run.run s).1 with
  | error fault =>
    rw [hmembers] at hsaved
    obtain ⟨hanswer, hseen⟩ := hsaved
    rw [hanswer, hseen]
    refine ⟨?_, nofun⟩
    rintro _ ⟨⟩
    rfl
  | ok users =>
    rw [hmembers] at hsaved
    dsimp only at hsaved
    obtain ⟨batch, report, hcarried, hsaved⟩ := hsaved
    split at hsaved
    next hall =>
      obtain ⟨hanswer, hseen⟩ := hsaved
      rw [hanswer] at horder ⊢
      rw [hseen]
      refine ⟨nofun, ?_⟩
      rintro _ ⟨⟩
      refine ⟨users, batch, report, .ok [], (List.append_nil _).symm, hcarried, ?_⟩
      exact Output.accounts_ofFailures horder hcarried.split hall
    next hsome =>
      obtain ⟨second, hanswer, hseen⟩ := hsaved
      rw [hanswer] at horder ⊢
      rw [hseen]
      refine ⟨nofun, ?_⟩
      rintro output ⟨⟩
      have haccounts : (Output.ofSaved r ⟨_, report, second.toOption.map idsOf⟩).Accounts r _ _ _ :=
        Output.accounts_ofSaved horder hcarried.split hsome
      refine ⟨users, batch, report, second, ?_, hcarried, haccounts⟩
      rw [if_neg (mt haccounts.failed_iff.mp hsome)]

/-- What a command does without watch can be read off what it does under watch. -/
theorem run_eq_watched (c : Command) (s : σ) :
    (c.run ⟨g.batching begin elapse, limits⟩).run.run s =
      (((c.run ⟨g.watched begin elapse, limits⟩).run.run (s, [])).1,
        ((c.run ⟨g.watched begin elapse, limits⟩).run.run (s, [])).2.1) :=
  run_of_alike_watched
    (alike_run limits c (Administrator.alikeGateways_watched g begin elapse).of_true) s []

/-- The role is looked up, and then its members are replaced. -/
theorem run_replacing (a : Administrator (StateM σ)) (reference : String) (desired : List UserId)
    (s : σ) :
    ((sync reference false desired).run a).run.run s =
      match (a.findRole reference).run.run s with
      | (.ok r, s') => (replaceMembers a r desired).run.run s'
      | (.error fault, s') => (.error fault, s') := by
  rw [Command.run, Administrator.run_attempt_bind]
  rcases (a.findRole reference).run.run s with ⟨_ | r, s'⟩ <;> rfl

/-- **Every operation is accounted for.** Whatever the backend does and however its answers overlap,
a `sync` that is no dry run and gives an answer has found a role and read who holds it, and has
carried out the operations of the plan from these to the users wanted. Its lines tell of each
operation just once, and in the order of the plan: first those that were answered with success in
time, and then those that were not, with the reason. The status and the counts are of these, and
unless everything failed, one more line tells what was read of the members afterwards. A `sync` that
gives no answer has begun no operation. -/
theorem sync_accounts (reference : String) (desired : List UserId) (s : σ) :
    let unwatched : Administrator (StateM σ) := ⟨g.batching begin elapse, limits⟩
    let answered := ((sync reference false desired).run unwatched).run.run s
    let watched := ((sync reference false desired).run ⟨g.watched begin elapse, limits⟩).run.run
      (s, [])
    answered = (watched.1, watched.2.1) ∧
    (∀ fault, answered.1 = .error fault → ∀ e ∈ watched.2.2, ¬ e.OfBatch) ∧
    ∀ output, answered.1 = .ok output → ∃ r before users batch report second,
      let plan := Plan.compute r.id (idsOf users).toList desired
      ((unwatched.findRole reference).run.run s).1 = .ok r ∧
      (∀ e ∈ before, ¬ e.OfBatch) ∧
      watched.2.2 = before ++ [.read r.id (.ok users)] ++ batch ++
        (if output.status = .failed then [] else [.read r.id second]) ∧
      CarriedOut r.id limits.timeout plan.operations batch report ∧
      output.Accounts r plan.operations report (second.toOption.map idsOf) := by
  have hgateways := Administrator.alikeGateways_watched g begin elapse
  have hfound := congrArg Prod.fst
    (run_of_alike_watched (Administrator.alike_findRole limits hgateways reference) s [])
  -- the role is looked up first, and no operation is begun before it is found
  have hasks : Sends (fun e => ¬ e.OfBatch)
      (Administrator.findRole ⟨g.watched begin elapse, limits⟩ reference).run :=
    asksOnly_watched.findRole reference
  obtain ⟨before, hbefore, hquiet⟩ := hasks s []
  dsimp only at hfound ⊢
  rw [run_eq_watched]
  refine ⟨rfl, ?_⟩
  rw [run_replacing]
  generalize (Administrator.findRole ⟨g.watched begin elapse, limits⟩ reference).run.run (s, [])
    = found at hfound hbefore ⊢
  obtain ⟨result, s', log⟩ := found
  cases hbefore
  cases result with
  | error fault => exact ⟨fun _ _ => hquiet, nofun⟩
  | ok r =>
    obtain ⟨hfails, htold⟩ := accounts_replaceMembers g begin elapse limits r desired s' before
    refine ⟨fun fault hfault => ?_, fun output houtput => ?_⟩
    · rw [hfails fault hfault]
      exact List.forall_mem_append.mpr ⟨hquiet, List.forall_mem_singleton.mpr id⟩
    · obtain ⟨users, batch, report, second, hseen, hcarried, haccounts⟩ := htold output houtput
      exact ⟨r, before, users, batch, report, second, hfound, hquiet, hseen, hcarried, haccounts⟩

open Store (ada bob editorsId replaced someMoment)
open Program (atOnce)

/-- A store in which nothing can be changed for one of two users, and they are to change places. -/
def halfway : Store := (Store.empty.undergo replaced).failFor ada.id

/-- One user gets the role, and the other keeps it: there is a line for each of the two. -/
theorem sync_accounts_halfway :
    let g := Store.gateway someMoment.fresh someMoment.now
    let a : Administrator (StateM Store) := ⟨g.batching (atOnce g.change) fun _ s => s, {}⟩
    ∃ output, (((sync editorsId.text false [bob.id]).run a).run.run halfway).1 = .ok output ∧
      output.status = .partiallySucceeded ∧
      (∃ o, output.lines.count s!"ok {Output.named o}" = 1) ∧
      ∃ o, output.lines.countP (Output.tellsFailure o) = 1 := by
  intro g a
  have hstatus : ((((sync editorsId.text false [bob.id]).run a).run.run halfway).1.toOption.map
      (·.status)) = some .partiallySucceeded := by
    decide +kernel
  obtain ⟨output, houtput, hstatus⟩ := Option.map_eq_some_iff.mp hstatus
  have houtput := toOption_eq_some_iff.mp houtput
  obtain ⟨-, -, htold⟩ := sync_accounts g (atOnce g.change) (fun _ s => s) {} editorsId.text [bob.id]
    halfway
  obtain ⟨r, before, users, batch, report, second, -, -, -, -, haccounts⟩ := htold output houtput
  obtain ⟨hfailures, hsucceeded⟩ := haccounts.partially_iff.mp hstatus
  obtain ⟨o, ho⟩ := List.exists_mem_of_ne_nil _ hsucceeded
  obtain ⟨f, hf⟩ := List.exists_mem_of_ne_nil _ hfailures
  refine ⟨output, houtput, hstatus, ⟨o, ?_⟩, f.operation, ?_⟩
  · rw [haccounts.succeededOnce, if_pos ho]
  · rw [haccounts.failedOnce, if_pos (List.mem_map_of_mem hf)]

end Command

end Rolebook
