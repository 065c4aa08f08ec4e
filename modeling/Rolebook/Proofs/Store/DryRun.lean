import Rolebook.Proofs.Command.Lines
import Rolebook.Proofs.Store.Reference
import Rolebook.Proofs.Store.Retry

/-!
# Dry runs

A dry run of `sync` reads the members of a role and shows the plan; a real run makes the same plan,
carries it out and tells what became of each operation. Once the role is found, nothing can fail in
either but the operations themselves (`run_sync_dry`, `run_sync_real`), and what becomes of these is
told and is no fault of the command. So the two fail alike, and `dry_run_tells_the_truth` compares
what they answer line by line.
-/

namespace Rolebook

/-- The lines of a real run tell of an operation, as done or as failed. -/
def Output.TellsOf (told : Output) (o : Operation) : Prop :=
  Output.successLine o ∈ told.lines ∨ ∃ message, Output.failedLine o message ∈ told.lines

/-- A dry run has shown, operation by operation, what a real run tells of. -/
structure Foretold (r : Role) (added removed : List UserId) (shown told : Output) : Prop where
  lines : shown.lines = added.map (fun u => s!"+ {u}") ++ removed.map (fun u => s!"- {u}") ++
    [s!"plan for role {r.name.text}: {added.length} to add, {removed.length} to remove"]
  nodup : shown.lines.Nodup
  assigned : ∀ u : UserId, s!"+ {u}" ∈ shown.lines ↔ told.TellsOf (.assign u)
  unassigned : ∀ u : UserId, s!"- {u}" ∈ shown.lines ↔ told.TellsOf (.unassign u)
  /-- Each operation that was shown is told of in one line. -/
  once : ∃ (done : List Operation) (failed : List Failure) (rest : List String),
    told.lines = done.map Output.successLine ++ failed.map Output.failureLine ++ rest ∧
      (done ++ failed.map (·.operation)).Perm
        (added.map Operation.assign ++ removed.map Operation.unassign)
  clean : told.status = .succeeded ↔ ∀ o message, Output.failedLine o message ∉ told.lines

namespace Store

variable {s : Store} {r : Role} {m : Moment} {limits : Limits} {reference : String}
  {desired : List UserId}

/-! ## The two runs -/

/-- Either run begins by finding the role, and ends there if it is not found. -/
theorem run_sync {σ : Type} (a : Administrator (StateM σ)) (reference : String) (dryRun : Bool)
    (desired : List UserId) (s : σ) :
    ((Command.sync reference dryRun desired).run a).run.run s =
      match (a.findRole reference).run.run s with
      | (.ok r, s') => ((RoleCommand.sync dryRun desired).act a r).run.run s'
      | (.error fault, s') => (.error fault, s') := by
  have hrun := RoleCommand.run_on a reference (.sync dryRun desired)
  show (((RoleCommand.sync dryRun desired).on reference).run a).run.run s = _
  rw [hrun, Administrator.run_attempt_bind]
  rcases (a.findRole reference).run.run s with ⟨_ | r, s'⟩ <;> rfl

/-- To look for a role leaves the store as it is. -/
theorem exists_run_findRole (m : Moment) (limits : Limits) (reference : String) (s : Store) :
    ∃ result, ((administrator m limits).findRole reference).run.run s = (result, s) := by
  rw [run_findRole]
  cases (Id.read reference : Except Fault RoleId) <;> exact ⟨_, rfl⟩

/-- A dry run prints the plan and does nothing. -/
theorem run_sync_dry (hs : s.Sound) (h : s.roles.contains r.id = true)
    (hfound : ((administrator m limits).findRole reference).run.run s = (.ok r, s))
    (desired : List UserId) :
    ((Command.sync reference true desired).run (administrator m limits)).run.run s
      = (.ok (.succeeded (Output.planLines r (s.plan r.id desired))), s) := by
  rw [run_sync, hfound]
  show ((administrator m limits).planMembers r.id desired >>= _).run.run s = _
  rw [Administrator.run_attempt_bind, run_planMembers hs h]
  rfl

/-- The plan is carried out but for what fails, and what became of it is told. -/
theorem run_sync_real (hs : s.Sound) (h : s.roles.contains r.id = true)
    (hfound : ((administrator m limits).findRole reference).run.run s = (.ok r, s))
    (desired : List UserId) :
    ((Command.sync reference false desired).run (administrator m limits)).run.run s =
      let plan := s.plan r.id desired
      let x := s.carriedOut r.id plan
      (Output.ofSave r (x.report.result.map fun report =>
        ⟨plan, report, some (x.store.holders r.id)⟩), x.store) := by
  -- the users wanted are made a set twice over, which makes no difference to the plan
  have hplan : s.plan r.id (SortedSet.ofList desired).toList = s.plan r.id desired :=
    Plan.compute_congr r.id (fun _ => Iff.rfl) fun _ => SortedSet.mem_ofList
  have hsaved := run_saveMembers_stored hs h m limits (SortedSet.ofList desired).toList
  rw [hplan] at hsaved
  have hsaved : ((administrator m limits).saveMembers r.id _).run.run s = _ := hsaved
  rw [run_sync, hfound]
  show (Command.replaceMembers (administrator m limits) r desired).run.run s = _
  rw [Command.replaceMembers, Administrator.run_lift_bind, Administrator.run_liftExcept, hsaved]
  rfl

/-! ## What is shown and what is told -/

section Lines

variable {role : RoleId} {p : Plan} {told : Output} {rest : List String}

/-- Lines about operations are about those of the plan. -/
theorem tellsOf_carriedOut
    (hlines : told.lines = Output.reportLines (s.carriedOut role p).report ++ rest)
    (hrest : Output.Apart rest) (o : Operation) : told.TellsOf o ↔ o ∈ p.operations := by
  rw [Output.TellsOf, hlines, Output.successLine_mem_append hrest,
    Output.exists_failedLine_mem_append hrest, ← List.mem_append]
  exact (attempted_carriedOut s role p).mem_iff

/-- Nothing has failed just if no line says so. -/
theorem failures_eq_nil_iff {report : Report}
    (hlines : told.lines = Output.reportLines report ++ rest) (hrest : Output.Apart rest) :
    report.failures = [] ↔ ∀ o message, Output.failedLine o message ∉ told.lines := by
  have hfailed : ∀ o, (∃ message, Output.failedLine o message ∈ Output.reportLines report ++ rest) ↔
      o ∈ report.failures.map (·.operation) := fun _ => Output.exists_failedLine_mem_append hrest
  rw [hlines]
  constructor
  · intro hnone o message hmem
    have hmem := (hfailed o).mp ⟨message, hmem⟩
    rw [hnone] at hmem
    cases hmem
  · intro hnot
    refine List.eq_nil_iff_forall_not_mem.mpr fun f hf => ?_
    obtain ⟨message, hmem⟩ := (hfailed f.operation).mpr (List.mem_map_of_mem hf)
    exact hnot _ _ hmem

/-- What becomes of a plan is told of the operations that the plan has shown. -/
theorem foretold_carriedOut (hstatus : told.status = (s.carriedOut role p).report.status)
    (hlines : told.lines = Output.reportLines (s.carriedOut role p).report ++ rest)
    (hrest : Output.Apart rest) (r : Role) :
    Foretold r p.toAdd.toList p.toRemove.toList (.succeeded (Output.planLines r p)) told where
  lines := rfl
  nodup := Output.nodup_planLines (p.sorted_operations.imp fun hlt heq => by
    rw [heq] at hlt
    exact Nat.lt_irrefl _ hlt)
  assigned u := by
    rw [tellsOf_carriedOut hlines hrest]
    exact Output.planLine_mem_planLines (o := .assign u)
  unassigned u := by
    rw [tellsOf_carriedOut hlines hrest]
    exact Output.planLine_mem_planLines (o := .unassign u)
  once := ⟨_, _, rest, hlines, attempted_carriedOut s role p⟩
  clean := by
    rw [hstatus, Report.status_eq_succeeded_iff]
    exact failures_eq_nil_iff hlines hrest

end Lines

/-- When nothing has failed there is nothing left to plan: those who hold the role are those who
were wanted. -/
theorem mem_holders_of_clean (hs : s.Sound) {role : RoleId} (h : s.roles.contains role = true)
    (hclean : (s.carriedOut role (s.plan role desired)).report.failures = []) (u : UserId) :
    u ∈ (s.carriedOut role (s.plan role desired)).store.holders role ↔ u ∈ desired := by
  have hagrees : Agrees role desired s _ := agrees_carriedOut hs h desired fun _ _ => Iff.rfl
  have hnothing := hagrees.outstanding_eq
  rw [Standing.outstanding, hclean, List.map_nil] at hnothing
  exact plan_operations_eq_nil_iff.mp hnothing.symm u

/-- A plan leads from the holders there are to the users who are wanted. -/
theorem mem_desired_iff (s : Store) (role : RoleId) (desired : List UserId) (u : UserId) :
    u ∈ desired ↔ (u ∈ s.holders role ∨ u ∈ (s.plan role desired).toAdd.toList) ∧
      u ∉ (s.plan role desired).toRemove.toList := by
  have hadded : u ∈ (s.plan role desired).toAdd.toList ↔ u ∈ desired ∧ u ∉ s.holders role :=
    Plan.mem_toAdd_compute
  have hremoved : u ∈ (s.plan role desired).toRemove.toList ↔ u ∈ s.holders role ∧ u ∉ desired :=
    Plan.mem_toRemove_compute
  rw [hadded, hremoved]
  tauto

/-- A real run for a stored role is answered by what was foretold. -/
theorem exists_told (hs : s.Sound) (h : s.roles.contains r.id = true)
    (hfound : ((administrator m limits).findRole reference).run.run s = (.ok r, s))
    (desired : List UserId) :
    let plan := s.plan r.id desired
    let x := s.carriedOut r.id plan
    ∃ told : Output,
      ((Command.sync reference false desired).run (administrator m limits)).run.run s
        = (.ok told, x.store) ∧ told.status = x.report.status ∧
      Foretold r plan.toAdd.toList plan.toRemove.toList
        (.succeeded (Output.planLines r plan)) told := by
  intro plan x
  obtain ⟨told, rest, htold, hstatus, hlines, hrest⟩ :=
    Output.ofSave_result r plan x.report (some (x.store.holders r.id))
  refine ⟨told, ?_, hstatus, foretold_carriedOut hstatus hlines hrest r⟩
  rw [← htold]
  exact run_sync_real hs h hfound desired

/-- **A dry run tells the truth.** On a store left by any run of invocations, whatever the reference
and whoever is wanted: a dry run of `sync` changes nothing, and it fails just when a real run would,
with the same fault. If it does not fail, it shows each operation that the real run attempts once,
and nothing else, and counts them; and if nothing fails in the real run, those who hold the role
after it are those who held it before, with those shown to be added and without those shown to be
removed, and they are those who were wanted. -/
theorem dry_run_tells_the_truth (history : List Invocation) (m : Moment) (limits : Limits)
    (reference : String) (desired : List UserId) :
    let s := empty.undergo history
    let a := administrator m limits
    let dry := ((Command.sync reference true desired).run a).run.run s
    let real := ((Command.sync reference false desired).run a).run.run s
    dry.2 = s ∧
    (∀ fault, dry.1 = .error fault ↔ real.1 = .error fault) ∧
    ∀ shown, dry.1 = .ok shown →
      ∃ (told : Output) (r : Role) (added removed : List UserId) (before after : SortedSet UserId),
        real.1 = .ok told ∧ (a.findRole reference).run.run s = (.ok r, s) ∧
        Foretold r added removed shown told ∧
        (a.memberIds r.id).run.run s = (.ok before, s) ∧
        (a.memberIds r.id).run.run real.2 = (.ok after, real.2) ∧
        (told.status = .succeeded → ∀ u : UserId,
          (u ∈ after ↔ (u ∈ before ∨ u ∈ added) ∧ u ∉ removed) ∧ (u ∈ after ↔ u ∈ desired)) := by
  intro s a dry real
  have hs : s.Sound := sound_undergo history
  obtain ⟨result, hfound⟩ := exists_run_findRole m limits reference s
  cases result with
  | error fault =>
    have hstops : ∀ dryRun, ((Command.sync reference dryRun desired).run a).run.run s
        = (.error fault, s) := fun dryRun => by rw [run_sync, hfound]
    have hdry : dry = _ := hstops true
    have hreal : real = _ := hstops false
    rw [hdry, hreal]
    exact ⟨rfl, fun _ => Iff.rfl, nofun⟩
  | ok r =>
    obtain ⟨-, stored, hstored, -⟩ := stored_of_findRole hs hfound
    have hrole : s.roles.contains r.id = true := Option.isSome_of_eq_some hstored
    have hagrees : Agrees r.id desired s _ :=
      agrees_carriedOut hs hrole desired fun _ _ => Iff.rfl
    have hbefore := run_memberIds hs hrole m limits
    have hafter := run_memberIds hagrees.sound hagrees.stored m limits
    have hdry : dry = _ := run_sync_dry hs hrole hfound desired
    obtain ⟨told, htold, hstatus, hforetold⟩ := exists_told hs hrole hfound desired
    have hreal : real = _ := htold
    rw [hdry, hreal]
    refine ⟨rfl, fun _ => ⟨nofun, nofun⟩, fun shown hshown => ?_⟩
    have hshown : _ = shown := Except.ok.inj hshown
    rw [← hshown]
    refine ⟨told, r, _, _, _, _, rfl, hfound, hforetold, hbefore, hafter, fun hclean u => ?_⟩
    rw [hstatus, Report.status_eq_succeeded_iff] at hclean
    rw [mem_holders_of_clean hs hrole hclean u]
    exact ⟨mem_desired_iff s r.id desired u, Iff.rfl⟩

def bob : User := ⟨⟨⟨2, by decide⟩⟩, "bob", none, none⟩

/-- A role, and two users of whom one holds it. -/
def replaced : List Invocation :=
  [.act (.insertRole (editors false 0)), .act (.insertUser ada), .act (.insertUser bob),
    .act (.call someMoment (.change editorsId (.assign ada.id)))]

/-- One user is to hold the role in place of the other. Nothing fails, and so it comes. -/
theorem dry_run_tells_the_truth_replaced :
    let s := empty.undergo replaced
    let a := administrator someMoment {}
    let dry := ((Command.sync "Editors" true [bob.id, bob.id]).run a).run.run s
    let real := ((Command.sync "Editors" false [bob.id, bob.id]).run a).run.run s
    ∃ (shown told : Output) (after : SortedSet UserId),
      dry = (.ok shown, s) ∧ real.1 = .ok told ∧ told.status = .succeeded ∧
      (a.memberIds editorsId).run.run real.2 = (.ok after, real.2) ∧
      ∀ u, u ∈ after ↔ u ∈ [bob.id, bob.id] := by
  have hs : (empty.undergo replaced).Sound := sound_undergo replaced
  have hstored : (empty.undergo replaced).roles.find? editorsId = some (editors false 0) := rfl
  have hfound : ((administrator someMoment {}).findRole "Editors").run.run (empty.undergo replaced)
      = (.ok _, _) :=
    (namesApart_undergo replaced).run_findRole hstored (by decide) plain_editors someMoment {}
  have hdry := run_sync_dry hs rfl hfound [bob.id, bob.id]
  have hnone : ((empty.undergo replaced).carriedOut editorsId
      ((empty.undergo replaced).plan editorsId [bob.id, bob.id])).report.failures = [] := rfl
  obtain ⟨told, hreal, hstatus, -⟩ := exists_told hs rfl hfound [bob.id, bob.id]
  have hsucceeded : told.status = .succeeded :=
    hstatus.trans ((Report.status_eq_succeeded_iff _).mpr hnone)
  obtain ⟨-, -, htruth⟩ :=
    dry_run_tells_the_truth replaced someMoment {} "Editors" [bob.id, bob.id]
  obtain ⟨told', r, added, removed, before, after, htold, hfound', -, -, hafter, hclean⟩ :=
    htruth _ (congrArg Prod.fst hdry)
  have htold : told' = told := Except.ok.inj (htold.symm.trans (congrArg Prod.fst hreal))
  have hr : r = _ := Except.ok.inj (congrArg Prod.fst (hfound'.symm.trans hfound))
  have hid : r.id = editorsId := congrArg Role.id hr
  rw [hid] at hafter
  rw [htold] at hclean
  exact ⟨_, told, after, hdry, congrArg Prod.fst hreal, hsucceeded, hafter,
    fun u => (hclean hsucceeded u).2⟩

end Store

end Rolebook
