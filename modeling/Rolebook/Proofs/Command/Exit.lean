import Rolebook.Program
import Rolebook.Proofs.Administrator.Watched
import Rolebook.Proofs.Command.Grammar
import Rolebook.Proofs.Http.Requests
import Rolebook.Proofs.Http.Roster

/-!
# What the exit code tells

A run of the program is watched from two sides: the server keeps a record of the requests that reach
it, and what the gateway is asked is written down. From the one it is read off that nothing is sent
before the command line and the settings have been read, and that commands which only show something
send nothing but questions; from the other, how many of the membership operations that were begun
were answered with success, which is what the exit code tells (`ExitTells`).

Only a `sync` that is no dry run begins any operations, and what it answers has the status of the
report on them; all other commands answer in full or fail (`exitTells_run`).
-/

namespace Rolebook

/-! ## Operations on record -/

/-- An event of a call for a membership operation. -/
def Event.OfBatch : Event → Prop
  | began .. | answered .. => True
  | read .. | asked _ => False

/-- An operation was begun. -/
def Attempted (seen : List Event) (o : Operation) : Prop :=
  ∃ role delay, .began role o delay ∈ seen

/-- An operation was answered with success, in time. -/
def Achieved (seen : List Event) (o : Operation) : Prop :=
  ∃ role, .answered role o (.ok ()) ∈ seen

/-- What an exit code tells of a command's answer and of the operations that were begun. -/
structure ExitTells (code : Nat) (answer : Except Fault Output) (seen : List Event) : Prop where
  zero_iff_status : code = 0 ↔ ∃ output, answer = .ok output ∧ output.status = .succeeded
  zero_iff : code = 0 ↔
    (∃ output, answer = .ok output) ∧ ∀ o, Attempted seen o → Achieved seen o
  two_iff : code = 2 ↔
    (∃ o, Attempted seen o ∧ Achieved seen o) ∧ ∃ o, Attempted seen o ∧ ¬ Achieved seen o
  one_iff : code = 1 ↔
    (∃ fault, answer = .error fault) ∨
      (∃ o, Attempted seen o) ∧ ∀ o, Attempted seen o → ¬ Achieved seen o

section Record

variable {seen batch : List Event}

/-- Without calls of a batch on record, no operation was attempted. -/
theorem not_attempted (h : ∀ e ∈ seen, ¬ e.OfBatch) (o : Operation) : ¬ Attempted seen o := by
  rintro ⟨role, delay, hm⟩
  exact h _ hm trivial

/-- A command that fails before any batch leaves with 1, and nothing was attempted. -/
theorem exitTells_error (h : ∀ e ∈ seen, ¬ e.OfBatch) (fault : Fault) :
    ExitTells 1 (.error fault) seen where
  zero_iff_status := iff_of_false nofun fun ⟨_, he, _⟩ => nomatch he
  zero_iff := iff_of_false nofun fun ⟨⟨_, he⟩, _⟩ => nomatch he
  two_iff := iff_of_false nofun fun ⟨⟨o, ho, _⟩, _⟩ => not_attempted h o ho
  one_iff := iff_of_true rfl (Or.inl ⟨fault, rfl⟩)

/-- A command without a batch that succeeds leaves with 0, and nothing was attempted. -/
theorem exitTells_succeeded (h : ∀ e ∈ seen, ¬ e.OfBatch) {output : Output}
    (hstatus : output.status = .succeeded) : ExitTells 0 (.ok output) seen where
  zero_iff_status := iff_of_true rfl ⟨output, rfl, hstatus⟩
  zero_iff := iff_of_true rfl ⟨⟨output, rfl⟩, fun o ho => absurd ho (not_attempted h o)⟩
  two_iff := iff_of_false nofun fun ⟨⟨o, ho, _⟩, _⟩ => not_attempted h o ho
  one_iff := by
    refine iff_of_false nofun ?_
    rintro (⟨_, he⟩ | ⟨⟨o, ho⟩, -⟩)
    · cases he
    · exact not_attempted h o ho

/-- Each code is that of one status. -/
theorem codeOf_eq_zero_iff (status : Status) : Ending.codeOf status = 0 ↔ status = .succeeded := by
  cases status <;> decide

theorem codeOf_eq_one_iff (status : Status) : Ending.codeOf status = 1 ↔ status = .failed := by
  cases status <;> decide

theorem codeOf_eq_two_iff (status : Status) :
    Ending.codeOf status = 2 ↔ status = .partiallySucceeded := by
  cases status <;> decide

open FanOut (CarriedOut)

variable {role : RoleId} {timeout : Nat} {operations : List Operation} {report : Report}

/-- What was attempted, by the record, is what was to be done: each operation has its one call,
begun and answered. -/
theorem attempted_iff (h : CarriedOut role timeout operations batch report)
    (hsame : ∀ e : Event, e.OfBatch → (e ∈ seen ↔ e ∈ batch)) {o : Operation} :
    Attempted seen o ↔ o ∈ operations := by
  have hbegun : o ∈ operations ↔ (role, o) ∈ batch.filterMap Event.begun? := by
    rw [h.issued, List.mem_map]
    exact ⟨fun ho => ⟨o, ho, rfl⟩, fun ⟨_, ho, he⟩ => (Prod.mk.inj he).2 ▸ ho⟩
  rw [hbegun, List.mem_filterMap]
  constructor
  · rintro ⟨role', delay, hm⟩
    have hm := (hsame (.began role' o delay) trivial).mp hm
    obtain ⟨_, hrole, -⟩ := h.own _ hm
    exact ⟨_, hm, by rw [← hrole]; rfl⟩
  · rintro ⟨e, hm, he⟩
    cases e with
    | began role' o' delay =>
      cases he
      exact ⟨role, delay, (hsame (.began role o delay) trivial).mpr hm⟩
    | answered | read | asked => cases he

/-- What was achieved, by the record, is what the report says has succeeded. -/
theorem achieved_iff (h : CarriedOut role timeout operations batch report)
    (hsame : ∀ e : Event, e.OfBatch → (e ∈ seen ↔ e ∈ batch)) {o : Operation} :
    Achieved seen o ↔ o ∈ report.succeeded := by
  rw [h.succeeded]
  constructor
  · rintro ⟨role', hm⟩
    have hm := (hsame (.answered role' o (.ok ())) trivial).mp hm
    obtain ⟨_, hrole, -⟩ := h.own _ hm
    exact hrole ▸ hm
  · exact fun hm => ⟨role, (hsame (.answered role o (.ok ())) trivial).mpr hm⟩

/-- Every operation of a batch is reported, as a success or as a failure. -/
theorem mem_operations_iff (h : CarriedOut role timeout operations batch report) {o : Operation} :
    o ∈ operations ↔ o ∈ report.succeeded ∨ o ∈ report.failures.map (·.operation) := by
  rw [← h.split.mem_iff, List.mem_append]

/-- No operation failed just when every one that was begun was achieved. -/
theorem failures_eq_nil_iff_achieved (h : CarriedOut role timeout operations batch report)
    (hd : operations.Nodup) (hsame : ∀ e : Event, e.OfBatch → (e ∈ seen ↔ e ∈ batch)) :
    report.failures = [] ↔ ∀ o, Attempted seen o → Achieved seen o := by
  constructor
  · intro hnil o ho
    rw [attempted_iff h hsame, mem_operations_iff h, hnil] at ho
    exact (achieved_iff h hsame).mpr (ho.resolve_right List.not_mem_nil)
  · intro hall
    -- an operation that failed did not succeed as well: none is in the batch twice
    have hdisjoint := (List.nodup_append.mp (h.split.nodup_iff.mpr hd)).2.2
    refine List.eq_nil_iff_forall_not_mem.mpr fun f hf => ?_
    have hf : f.operation ∈ report.failures.map (·.operation) := List.mem_map_of_mem hf
    have hbegun := (attempted_iff h hsame).mpr ((mem_operations_iff h).mpr (Or.inr hf))
    exact hdisjoint _ ((achieved_iff h hsame).mp (hall f.operation hbegun)) _ hf rfl

/-- No operation succeeded just when none that was begun was achieved. -/
theorem succeeded_eq_nil_iff_achieved (h : CarriedOut role timeout operations batch report)
    (hsame : ∀ e : Event, e.OfBatch → (e ∈ seen ↔ e ∈ batch)) :
    report.succeeded = [] ↔ ∀ o, Attempted seen o → ¬ Achieved seen o := by
  constructor
  · intro hnil o _ ho
    rw [achieved_iff h hsame, hnil] at ho
    cases ho
  · intro hnone
    refine List.eq_nil_iff_forall_not_mem.mpr fun o ho => ?_
    have hbegun := (attempted_iff h hsame).mpr ((mem_operations_iff h).mpr (Or.inl ho))
    exact hnone o hbegun ((achieved_iff h hsame).mpr ho)

/-- The status of a report on a batch tells what was achieved of it. -/
theorem exitTells_carriedOut (h : CarriedOut role timeout operations batch report)
    (hd : operations.Nodup) (hsame : ∀ e : Event, e.OfBatch → (e ∈ seen ↔ e ∈ batch))
    {output : Output} (hstatus : output.status = report.status) :
    ExitTells (Ending.codeOf output.status) (.ok output) seen := by
  have hall := failures_eq_nil_iff_achieved h hd hsame
  have hnone := succeeded_eq_nil_iff_achieved h hsame
  have hok : ∃ output', Except.ok output = (.ok output' : Except Fault Output) := ⟨output, rfl⟩
  rw [hstatus]
  refine ⟨?_, ?_, ?_, ?_⟩
  · rw [codeOf_eq_zero_iff]
    exact ⟨fun hs => ⟨output, rfl, hstatus.trans hs⟩,
      fun ⟨_, he, hs⟩ => hstatus.symm.trans ((Except.ok.inj he).symm ▸ hs)⟩
  · rw [codeOf_eq_zero_iff, Report.status_eq_succeeded_iff, hall]
    exact (and_iff_right hok).symm
  · rw [codeOf_eq_two_iff, Report.status_eq_partiallySucceeded_iff, Ne, Ne, hall, hnone]
    push Not
    exact and_comm
  · rw [codeOf_eq_one_iff, Report.status_eq_failed_iff, Ne, hall, hnone]
    push Not
    constructor
    · rintro ⟨⟨o, ho, -⟩, hnone⟩
      exact Or.inr ⟨⟨o, ho⟩, hnone⟩
    · rintro (⟨_, he⟩ | ⟨⟨o, ho⟩, hnone⟩)
      · cases he
      · exact ⟨⟨o, ho, hnone o ho⟩, hnone⟩

end Record

/-! ## What commands leave on record -/

section Commands

variable {σ ω : Type} {P : ω → Prop} {limits : Limits}

/-- A command that shows something and changes nothing. -/
def Command.Shows : Command → Prop
  | .roles | .permissions | .users | .members _ | .sync _ true _ => True
  | .sync _ false _ | .createRole .. | .deleteRole _ => False

/-- Questions to a gateway leave nothing else on record. -/
structure AsksOnly (P : ω → Prop) (g : Gateway (StateM (σ × List ω))) : Prop where
  listRoles : Sends P g.listRoles.run
  getRole : ∀ id, Sends P (g.getRole id).run
  listPermissions : Sends P g.listPermissions.run
  listUsers : Sends P g.listUsers.run
  listMembers : ∀ id, Sends P (g.listMembers id).run

namespace AsksOnly

variable {g : Gateway (StateM (σ × List ω))}

/-- To look for a role is to ask for it or to list all roles, and no part of a batch. -/
theorem findRole (h : AsksOnly P g) (reference : String) :
    Sends P (Administrator.findRole ⟨g, limits⟩ reference).run := by
  unfold Administrator.findRole
  cases (Id.read reference : Except Fault RoleId) with
  | ok id => exact h.getRole id
  | error _ => exact h.listRoles.bind_attempt fun _ => .ofExcept _

/-- What only shows something only asks. -/
theorem run (h : AsksOnly P g) {c : Command} (hc : c.Shows) : Sends P (c.run ⟨g, limits⟩).run := by
  cases c with
  | roles => exact (h.listRoles.bind_attempt fun _ => .pure _).bind_attempt fun _ => .pure _
  | permissions =>
    exact (h.listPermissions.bind_attempt fun _ => .pure _).bind_attempt fun _ => .pure _
  | users => exact (h.listUsers.bind_attempt fun _ => .pure _).bind_attempt fun _ => .pure _
  | members role =>
    refine (h.findRole role).bind_attempt fun r => ?_
    exact ((h.listMembers r.id).bind_attempt fun _ => .pure _).bind_attempt fun _ => .pure _
  | sync role dryRun desired =>
    cases dryRun with
    | false => exact hc.elim
    | true =>
      refine (h.findRole role).bind_attempt fun r => ?_
      have hids : Sends P (Administrator.memberIds ⟨g, limits⟩ r.id).run :=
        (h.listMembers r.id).bind_attempt fun _ => .pure _
      exact (hids.bind_attempt fun _ => .pure _).bind_attempt fun _ => .pure _
  | createRole | deleteRole => exact hc.elim

end AsksOnly

variable {g : Gateway (StateM σ)} {begin : RoleId → Nat → Operation → StateM σ (Pending σ)}
  {elapse : Nat → σ → σ}

/-- A call that is no part of a batch goes on record as such. -/
theorem sends_asking {α : Type} (c : Gateway.Call) (x : Attempt (StateM σ) α) :
    Sends (fun e => ¬ e.OfBatch) (Gateway.asking c x).run :=
  fun _ _ => ⟨[.asked c], rfl, List.forall_mem_singleton.mpr id⟩

/-- Of all calls of a watched gateway, only those of a batch go on record as part of one. -/
theorem asksOnly_watched : AsksOnly (fun e => ¬ e.OfBatch) (g.watched begin elapse) where
  listRoles := sends_asking _ _
  getRole _ := sends_asking _ _
  listPermissions := sends_asking _ _
  listUsers := sends_asking _ _
  listMembers id _ _ := ⟨[.read id _], rfl, List.forall_mem_singleton.mpr fun h => h⟩

/-- No command but a `sync` that is no dry run begins a membership operation. -/
theorem sends_of_ne_sync {c : Command} (hc : ∀ role desired, c ≠ .sync role false desired) :
    Sends (fun e => ¬ e.OfBatch) (c.run ⟨g.watched begin elapse, limits⟩).run := by
  have hasks : AsksOnly (fun e => ¬ e.OfBatch) (g.watched begin elapse) := asksOnly_watched
  cases c with
  | roles | permissions | users | members => exact hasks.run trivial
  | sync role dryRun desired =>
    cases dryRun with
    | true => exact hasks.run trivial
    | false => exact absurd rfl (hc role desired)
  | createRole name requested =>
    refine Sends.bind_attempt ?_ fun _ => .pure _
    unfold Administrator.createRole
    split
    next => exact sends_asking _ _
    next => exact .pure _
  | deleteRole role =>
    refine (hasks.findRole role).bind_attempt fun r => Sends.bind_attempt ?_ fun _ => .pure _
    refine Sends.bind_attempt ?_ fun _ => sends_asking _ _
    exact (hasks.getRole r.id).bind_attempt fun _ => .ofExcept _

/-- What comes last decides what is answered. -/
theorem status_of_bind {α : Type} {x : Attempt (StateM σ) α} {k : α → Attempt (StateM σ) Output}
    (hk : ∀ a s output, ((k a).run.run s).1 = .ok output → output.status = .succeeded) (s : σ)
    {output : Output} (h : ((x >>= k).run.run s).1 = .ok output) : output.status = .succeeded := by
  rw [Administrator.run_attempt_bind] at h
  generalize x.run.run s = answered at h
  obtain ⟨result, s'⟩ := answered
  cases result with
  | error fault => cases h
  | ok a => exact hk a s' output h

/-- A command other than a real `sync` answers with no status but that of success. -/
theorem status_of_ne_sync {c : Command} (hc : ∀ role desired, c ≠ .sync role false desired)
    {a : Administrator (StateM σ)} {s : σ} {output : Output}
    (h : ((c.run a).run.run s).1 = .ok output) : output.status = .succeeded := by
  have hlast : ∀ {α : Type} (lines : α → List String) (x : α) (s : σ) (output : Output),
      ((pure (.succeeded (lines x)) : Attempt (StateM σ) Output).run.run s).1 = .ok output →
        output.status = .succeeded := by
    rintro α lines x s _ ⟨⟩
    rfl
  cases c with
  | roles | permissions | users | createRole => exact status_of_bind (hlast _) s h
  | members =>
    exact status_of_bind (fun _ s _ h => status_of_bind (hlast _) s h) s h
  | deleteRole =>
    exact status_of_bind (fun r s _ h => status_of_bind (hlast fun _ => _) s h) s h
  | sync role dryRun desired =>
    cases dryRun with
    | true => exact status_of_bind (fun _ s _ h => status_of_bind (hlast _) s h) s h
    | false => exact absurd rfl (hc role desired)

/-- What stands before and after a batch on record makes no difference to it. -/
theorem mem_of_ofBatch {before batch after : List Event} (hbefore : ∀ e ∈ before, ¬ e.OfBatch)
    (hafter : ∀ e ∈ after, ¬ e.OfBatch) {e : Event} (he : e.OfBatch) :
    e ∈ before ++ batch ++ after ↔ e ∈ batch := by
  rw [List.mem_append, List.mem_append]
  constructor
  · rintro ((hm | hm) | hm)
    · exact absurd he (hbefore e hm)
    · exact hm
    · exact absurd he (hafter e hm)
  · exact fun hm => Or.inl (Or.inr hm)

/-- What a real `sync` prints is made of what saving the members comes to. -/
theorem run_replaceMembers (a : Administrator (StateM σ)) (r : Role) (desired : List UserId)
    (s : σ) :
    (Command.replaceMembers a r desired).run.run s =
      (Output.ofSave r ((a.saveMembers r.id (SortedSet.ofList desired).toList).run.run s).1,
        ((a.saveMembers r.id (SortedSet.ofList desired).toList).run.run s).2) := by
  rw [Command.replaceMembers, Administrator.run_lift_bind, Administrator.run_liftExcept]

/-- A save tells what became of its batch, or why there was none. -/
theorem exitTells_replaceMembers (r : Role) (desired : List UserId) (s : σ) {before : List Event}
    (hbefore : ∀ e ∈ before, ¬ e.OfBatch) :
    let ran := (Command.replaceMembers ⟨g.watched begin elapse, limits⟩ r desired).run.run (s, before)
    ExitTells (Ending.finished ran.1).code ran.1 ran.2.2 := by
  have hsaved := Administrator.run_saveMembers_watched g begin elapse limits r.id
    (SortedSet.ofList desired).toList s before
  rw [run_replaceMembers]
  dsimp only at hsaved ⊢
  generalize ((⟨g.watched begin elapse, limits⟩ : Administrator _).saveMembers r.id _).run.run
    (s, before) = saved at hsaved ⊢
  have hread : ∀ result, ∀ e ∈ [Event.read r.id result], ¬ e.OfBatch := fun _ =>
    List.forall_mem_singleton.mpr fun h => h
  cases hmembers : ((g.listMembers r.id).run.run s).1 with
  | error fault =>
    rw [hmembers] at hsaved
    rw [hsaved.1, hsaved.2]
    exact exitTells_error (List.forall_mem_append.mpr ⟨hbefore, hread _⟩) fault
  | ok users =>
    rw [hmembers] at hsaved
    dsimp only at hsaved
    generalize Plan.compute r.id (Administrator.idsOf users).toList _ = plan at hsaved
    obtain ⟨batch, report, hcarried, hsaved⟩ := hsaved
    have hfirst : ∀ e ∈ before ++ [Event.read r.id (.ok users)], ¬ e.OfBatch :=
      List.forall_mem_append.mpr ⟨hbefore, hread _⟩
    split at hsaved
    next hall =>
      have hstatus : (Output.ofFailures plan.size report.failures).status = report.status := by
        refine (report.status_eq_failed_iff.mpr ⟨fun hnil => hall.1 ?_, hall.2⟩).symm
        have hsplit := hcarried.split
        rw [hall.2, hnil] at hsplit
        exact hsplit.symm.eq_nil
      rw [hsaved.1, hsaved.2, ← List.append_nil (_ ++ batch)]
      exact exitTells_carriedOut hcarried plan.nodup_operations
        (fun _ he => mem_of_ofBatch hfirst (List.forall_mem_nil _) he) hstatus
    next hsome =>
      obtain ⟨second, hanswer, hseen⟩ := hsaved
      rw [hanswer, hseen]
      exact exitTells_carriedOut hcarried plan.nodup_operations
        (fun _ he => mem_of_ofBatch hfirst (hread second) he) rfl

/-- The exit code of a command tells what became of the operations that it began. -/
theorem exitTells_run (c : Command) (s : σ) :
    let ran := (c.run ⟨g.watched begin elapse, limits⟩).run.run (s, [])
    ExitTells (Ending.finished ran.1).code ran.1 ran.2.2 := by
  intro ran
  by_cases hc : ∀ role desired, c ≠ .sync role false desired
  · obtain ⟨seen, hseen, hquiet⟩ := sends_of_ne_sync hc s []
    have hseen : ran.2.2 = seen := hseen
    rw [hseen]
    cases hanswer : ran.1 with
    | error fault => exact exitTells_error hquiet fault
    | ok output =>
      have hstatus : output.status = .succeeded := status_of_ne_sync hc hanswer
      show ExitTells (Ending.codeOf output.status) _ _
      rw [hstatus]
      exact exitTells_succeeded hquiet hstatus
  · push Not at hc
    obtain ⟨role, desired, rfl⟩ := hc
    -- the role is looked up first, and no operation is begun before it is found
    obtain ⟨seen, hseen, hquiet⟩ := asksOnly_watched.findRole role s []
    have hran : ran = _ := Administrator.run_attempt_bind _ _ (s, [])
    rw [hran]
    generalize (Administrator.findRole ⟨g.watched begin elapse, limits⟩ role).run.run (s, [])
      = found at hseen ⊢
    obtain ⟨result, s', log⟩ := found
    cases hseen
    cases result with
    | error fault => exact exitTells_error hquiet fault
    | ok r => exact exitTells_replaceMembers r desired s' hquiet

end Commands

/-! ## Requests -/

namespace Http

variable {σ : Type} (send : Transport (StateM σ)) (b : Backend)

/-- A call that only reads sends nothing but GET requests. -/
theorem MaySend.method_eq_get {b : Backend} {c : Gateway.Call} {r : Request} (h : MaySend b c r)
    (hc : c.method = .get) : r.method = .get := by
  rcases h with h | ⟨id, u, rfl, -⟩
  · obtain ⟨_, -, rfl⟩ := Backend.request_eq_ok h
    exact hc
  · cases hc

/-- Questions are sent as questions. -/
theorem asksOnly_recorded (dispatch : Dispatch (StateM (σ × List Request))) :
    AsksOnly (fun r => r.method = .get) (gateway (recorded send) dispatch b) where
  listRoles := by
    refine Sends.bind_attempt ?_ fun _ => .ofExcept _
    exact (sends_fetch send b _ .listRoles).mono fun _ h => h.method_eq_get rfl
  getRole id := (sends_fetchRole send b (.getRole id)).mono fun _ h => h.method_eq_get rfl
  listPermissions := (sends_fetch send b _ .listPermissions).mono fun _ h => h.method_eq_get rfl
  listUsers := (sends_fetch send b _ .listUsers).mono fun _ h => h.method_eq_get rfl
  listMembers id := (sends_fetch send b _ (.members id)).mono fun _ h => h.method_eq_get rfl

end Http

/-! ## Command lines -/

namespace Command

/-- A command line for a listing, or for a dry run wherever its flag stands, asks for a command that
only shows something. -/
theorem shows_of_parse {name : String} {words : List String} {c : Command}
    (h : parse (name :: words) = .ok c)
    (hname : name ∈ ["roles", "permissions", "users", "members"] ∨
      name = "sync" ∧ dryRunFlag ∈ words) : c.Shows := by
  cases parse_eq_ok_iff.mp h with
  | roles | permissions | users | members => trivial
  | sync rest named listed flag =>
    have hflag : dryRunFlag ∈ words := hname.elim (fun h => absurd h (by decide)) (·.2)
    rw [flag.mpr hflag]
    trivial
  | createRole | deleteRole => exact absurd hname (by simp)

end Command

/-! ## Runs -/

namespace Program

open Http (Transport Dispatch Request recorded)
open Store (ada editorsId)

variable {σ : Type}

/-- With a command line or settings that cannot be read nothing is sent, and the code is 1. -/
theorem run_of_rejected {send : Transport (StateM σ)} {dispatch : Dispatch (StateM σ)}
    {arguments : List String} {lookup : Settings.Lookup} {fault : Fault}
    (h : Command.parse arguments = .error fault ∨ Settings.read lookup = .error fault) (s : σ) :
    ((run send dispatch arguments lookup).run s).1.code = 1 ∧
      ((run send dispatch arguments lookup).run s).2 = s := by
  unfold run prepare
  cases hparse : Command.parse arguments with
  | error fault => exact ⟨rfl, rfl⟩
  | ok command =>
    rcases h with h | h
    · rw [hparse] at h
      cases h
    · rw [h]
      exact ⟨rfl, rfl⟩

/-- With both of them read, the program is the command, carried out with the settings. -/
theorem run_of_accepted {send : Transport (StateM σ)} {dispatch : Dispatch (StateM σ)}
    {arguments : List String} {lookup : Settings.Lookup} {command : Command} {settings : Settings}
    (hparse : Command.parse arguments = .ok command) (hread : Settings.read lookup = .ok settings)
    (s : σ) :
    (run send dispatch arguments lookup).run s =
      let answered := (command.run
        ⟨Http.gateway send dispatch (backend settings), settings.limits⟩).run.run s
      (.finished answered.1, answered.2) := by
  unfold run prepare
  rw [hparse, hread]
  rfl

/-- **Checked first, and told faithfully.** Whatever the server does and however its answers
overlap: a run whose command line or settings are rejected sends nothing and exits with 1. Any other
run carries out the command; its exit code is 0 if that was answered and every operation that was
begun succeeded, 2 if some of them succeeded and some did not, and 1 if the command failed or none
of the operations it began succeeded. Only a `sync` that is no dry run begins operations. A dry run,
wherever its flag stands, and a listing send nothing but questions. -/
theorem exit_code_faithful (send : Transport (StateM σ))
    (begin : (RoleId → Operation → Attempt (StateM (σ × List Request)) Unit) →
      RoleId → Nat → Operation → StateM (σ × List Request) (Pending (σ × List Request)))
    (elapse : Nat → σ × List Request → σ × List Request) (arguments : List String)
    (lookup : Settings.Lookup) (s : σ) :
    let dispatch : Dispatch (StateM (σ × List Request)) := fun call =>
      FanOut.changeAll (begin call) elapse
    let ran := (run (recorded send) dispatch arguments lookup).run (s, [])
    (∀ fault, Command.parse arguments = .error fault ∨ Settings.read lookup = .error fault →
      ran.1.code = 1 ∧ ran.2 = (s, [])) ∧
    (∀ command settings, Command.parse arguments = .ok command →
      Settings.read lookup = .ok settings →
      let g := Http.gateway (recorded send) dispatch (backend settings)
      let answered := (command.run ⟨g, settings.limits⟩).run.run (s, [])
      let watched := (command.run
        ⟨g.watched (begin g.change) elapse, settings.limits⟩).run.run ((s, []), [])
      ran.2 = answered.2 ∧ answered = (watched.1, watched.2.1) ∧
      ExitTells ran.1.code answered.1 watched.2.2 ∧
      ∀ o, Attempted watched.2.2 o → ∃ role desired, command = .sync role false desired) ∧
    ∀ name words, arguments = name :: words →
      name ∈ ["roles", "permissions", "users", "members"] ∨ name = "sync" ∧ "--dry-run" ∈ words →
      ∀ r ∈ ran.2.2, r.method = .get := by
  intro dispatch ran
  refine ⟨fun fault h => run_of_rejected h (s, []), ?_, ?_⟩
  · intro command settings hparse hread g answered watched
    have hran : ran = (.finished answered.1, answered.2) := run_of_accepted hparse hread (s, [])
    have hgateways : AlikeGateways (fun s' s => s'.1 = s) true (g.watched (begin g.change) elapse) g :=
      Administrator.alikeGateways_watched g (begin g.change) elapse
    obtain ⟨hanswer, hleft⟩ :=
      Command.alike_run settings.limits command hgateways.of_true ((s, []), []) (s, []) rfl
    have htells : ExitTells (Ending.finished watched.1).code watched.1 watched.2.2 :=
      exitTells_run command (s, [])
    have hsame : answered = (watched.1, watched.2.1) := Prod.ext hanswer.symm hleft.symm
    refine ⟨congrArg Prod.snd hran, hsame, ?_, fun o ho => ?_⟩
    · rw [hran, hsame]
      exact htells
    · by_contra hnot
      push Not at hnot
      obtain ⟨seen, hseen, hquiet⟩ := sends_of_ne_sync hnot (s, []) []
      have hseen : watched.2.2 = seen := hseen
      rw [hseen] at ho
      exact not_attempted hquiet o ho
  · rintro name words rfl hname
    cases hparse : Command.parse (name :: words) with
    | error fault =>
      have hnothing : ran.2 = (s, []) := (run_of_rejected (Or.inl hparse) (s, [])).2
      rw [hnothing]
      exact List.forall_mem_nil _
    | ok command =>
      cases hread : Settings.read lookup with
      | error fault =>
        have hnothing : ran.2 = (s, []) := (run_of_rejected (Or.inr hread) (s, [])).2
        rw [hnothing]
        exact List.forall_mem_nil _
      | ok settings =>
        have hran : ran = _ := run_of_accepted hparse hread (s, [])
        have hasks := Http.asksOnly_recorded send (backend settings) dispatch
        have hsends : Sends (fun r => r.method = .get) (command.run
            ⟨Http.gateway (recorded send) dispatch (backend settings), settings.limits⟩).run :=
          hasks.run (Command.shows_of_parse hparse hname)
        obtain ⟨sent, hsent, hget⟩ := hsends s []
        have hsent : ran.2.2 = sent := (congrArg (fun ran => ran.2.2) hran).trans hsent
        rw [hsent]
        exact hget

/-- A call that takes no time, and does at its end all that it does. -/
def atOnce (call : RoleId → Operation → Attempt (StateM σ) Unit) (role : RoleId) (_ : Nat)
    (o : Operation) : StateM σ (Pending σ) := fun s =>
  (⟨0, (call role o).run⟩, s)

/-- The editors are to be one user whom the server knows and one whom it does not know. -/
def half : List String := [editorsId.text, ada.id.text, editorsId.text]

/-- A `sync` without a role sends nothing; one of which half is done exits with 2; and one that only
shows what it would do sends nothing but questions. -/
theorem exit_code_faithful_clerk :
    let dispatch : Dispatch (StateM (Bool × List Request)) := fun call =>
      FanOut.changeAll (atOnce call) fun _ s => s
    let ran := fun arguments =>
      (run (recorded Http.clerk) dispatch arguments fun _ => none).run (false, [])
    ((ran ["sync"]).1.code = 1 ∧ (ran ["sync"]).2 = (false, [])) ∧
    (∃ command settings, Command.parse ("sync" :: half) = .ok command ∧
      Settings.read (fun _ => none) = .ok settings ∧
      let g := Http.gateway (recorded Http.clerk) dispatch (backend settings)
      let seen := ((command.run
        ⟨g.watched (atOnce g.change) fun _ s => s, settings.limits⟩).run.run ((false, []), [])).2.2
      (ran ("sync" :: half)).1.code = 2 ∧ (∃ o, Attempted seen o ∧ Achieved seen o) ∧
        ∃ o, Attempted seen o ∧ ¬ Achieved seen o) ∧
    ∀ r ∈ (ran ("sync" :: half ++ ["--dry-run"])).2.2, r.method = .get := by
  -- the parts are stated apart, so that each is computed only once
  have hparse : ∃ command, Command.parse ("sync" :: half) = .ok command := ⟨_, rfl⟩
  have hread : ∃ settings, Settings.read (fun _ => none) = .ok settings := ⟨_, rfl⟩
  have hcode : ((run (recorded Http.clerk) (fun call => FanOut.changeAll (atOnce call) fun _ s => s)
      ("sync" :: half) fun _ => none).run (false, [])).1.code = 2 := by
    decide +kernel
  obtain ⟨command, hparse⟩ := hparse
  obtain ⟨settings, hread⟩ := hread
  obtain ⟨hrejected, -, -⟩ :=
    exit_code_faithful Http.clerk atOnce (fun _ s => s) ["sync"] (fun _ => none) false
  obtain ⟨-, haccepted, -⟩ :=
    exit_code_faithful Http.clerk atOnce (fun _ s => s) ("sync" :: half) (fun _ => none) false
  obtain ⟨-, -, hshown⟩ := exit_code_faithful Http.clerk atOnce (fun _ s => s)
    ("sync" :: half ++ ["--dry-run"]) (fun _ => none) false
  obtain ⟨-, -, htells, -⟩ := haccepted command settings hparse hread
  dsimp only at hrejected htells hshown ⊢
  refine ⟨hrejected .syncRoleExpected (Or.inl rfl),
    ⟨command, settings, hparse, hread, hcode, htells.two_iff.mp hcode⟩, ?_⟩
  exact hshown "sync" (half ++ ["--dry-run"]) rfl
    (Or.inr ⟨rfl, List.mem_append_right half (List.mem_singleton_self _)⟩)

end Program

end Rolebook
