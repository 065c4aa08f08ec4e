import Rolebook.Proofs.Administrator.Alike
import Rolebook.Proofs.Administrator.Members
import Rolebook.Proofs.Membership.Report

/-!
# Administrators that do no harm

A gateway is harmless if its reads change nothing, and a change that it fails to make changes
nothing either. An administrator makes many calls for one task, and one of them can fail after
another was answered. Still a task that fails on a harmless gateway has changed nothing
(`Task.stillIf_failed`), and neither has a command that fails or says that everything failed
(`Command.stillIf_failing`): what is done before the last change is only read, and nothing that is
done after it can fail.
-/

namespace Rolebook

variable {σ α β ε ε' : Type}

/-- A computation that changes nothing. -/
def Still (x : StateM σ α) : Prop := ∀ s, (x.run s).2 = s

/-- A computation that changes nothing if its answer is of this kind. -/
def StillIf (kind : α → Prop) (x : StateM σ α) : Prop := ∀ s, kind (x.run s).1 → (x.run s).2 = s

/-- Answers that are none. -/
def Failed : Except ε α → Prop
  | .ok _ => False
  | .error _ => True

theorem Still.stillIf {x : StateM σ α} (h : Still x) (kind : α → Prop) : StillIf kind x :=
  fun s _ => h s

section Attempts

variable {x : ExceptT ε (StateM σ) α} {k : α → ExceptT ε (StateM σ) β}

/-- What comes after a mere reading decides. -/
theorem Still.bind_stillIf {kind : Except ε β → Prop} (hx : Still x.run)
    (hk : ∀ a, StillIf kind (k a).run) : StillIf kind (x >>= k).run := by
  intro s
  have hs := hx s
  rw [Administrator.run_attempt_bind]
  generalize x.run.run s = answered at hs
  obtain ⟨result, s'⟩ := answered
  cases hs
  cases result with
  | ok a => exact hk a _
  | error fault => exact fun _ => rfl

/-- What only looks and goes on to what only looks has only looked, even where it stops at a fault.
-/
theorem Still.bind_attempt (hx : Still x.run) (hk : ∀ a, Still (k a).run) :
    Still (x >>= k).run := fun s =>
  hx.bind_stillIf (fun a => (hk a).stillIf fun _ => True) s trivial

/-- After a change, all must go well. -/
theorem StillIf.bind_attempt {kind : Except ε β → Prop} (hx : StillIf Failed x.run)
    (hk : ∀ a s, ¬ kind ((k a).run.run s).1) : StillIf kind (x >>= k).run := by
  intro s
  have hs := hx s
  rw [Administrator.run_attempt_bind]
  generalize x.run.run s = answered at hs
  obtain ⟨result, s'⟩ := answered
  cases result with
  | ok a => exact fun h => absurd h (hk a s')
  | error fault => exact fun _ => hs trivial

/-- A fault under another name is still a failure. -/
theorem StillIf.adapt (hx : StillIf Failed x.run) (f : ε → ε') :
    StillIf Failed (x.adapt f).run := by
  intro s hs
  refine hx s ?_
  rw [Administrator.run_adapt] at hs
  cases h : (x.run.run s).1 with
  | ok a => rw [h] at hs; exact hs
  | error fault => trivial

/-- A task whose answer is left out fails when it does, and with the same state. -/
theorem run_ended (x : ExceptT ε (StateM σ) α) (s : σ) :
    (Administrator.ended x).run.run s
      = ((x.run.run s).1.map fun _ => (), (x.run.run s).2) := by
  rw [Administrator.ended, Administrator.run_attempt_bind]
  rcases x.run.run s with ⟨_ | _, s'⟩ <;> rfl

theorem StillIf.ended (hx : StillIf Failed x.run) :
    StillIf Failed (Administrator.ended x).run := hx.bind_attempt fun _ _ h => h

theorem still_pure (a : α) : Still (pure a : ExceptT ε (StateM σ) α).run := fun _ => rfl

theorem still_liftExcept (r : Except ε α) : Still (liftExcept r : ExceptT ε (StateM σ) α).run := by
  intro s
  rw [Administrator.run_liftExcept]

end Attempts

/-- A gateway whose reads change nothing, and which changes nothing where it fails. -/
structure Gateway.Harmless (g : Gateway (StateM σ)) : Prop where
  listRoles : Still g.listRoles.run
  getRole : ∀ id, Still (g.getRole id).run
  createRole : ∀ d, StillIf Failed (g.createRole d).run
  updateRole : ∀ id e, StillIf Failed (g.updateRole id e).run
  deleteRole : ∀ id, StillIf Failed (g.deleteRole id).run
  listPermissions : Still g.listPermissions.run
  listUsers : Still g.listUsers.run
  listMembers : ∀ id, Still (g.listMembers id).run
  change : ∀ id o, StillIf Failed (g.change id o).run
  changeAll : ∀ l id os, StillIf (fun outcomes => ∀ x ∈ outcomes, Failed x.result)
    (g.changeAll l id os)

namespace Administrator

variable {g : Gateway (StateM σ)} (limits : Limits)

/-! ## Roles -/

theorem still_listRoles (h : g.Harmless) : Still (listRoles ⟨g, limits⟩).run :=
  h.listRoles.bind_attempt fun _ => still_pure _

/-- To look for a role is to read it or to list all roles; the rest is done without the gateway. -/
theorem still_findRole (h : g.Harmless) (reference : String) :
    Still (findRole ⟨g, limits⟩ reference).run := by
  unfold findRole
  cases (Id.read reference : Except Fault RoleId) with
  | ok id => exact h.getRole id
  | error fault => exact h.listRoles.bind_attempt fun _ => still_liftExcept _

theorem still_listPermissions (h : g.Harmless) : Still (listPermissions ⟨g, limits⟩).run :=
  h.listPermissions.bind_attempt fun _ => still_pure _

theorem still_listUsers (h : g.Harmless) : Still (listUsers ⟨g, limits⟩).run :=
  h.listUsers.bind_attempt fun _ => still_pure _

/-- Either the name is refused and nothing is called, or the gateway's own call fails. -/
theorem stillIf_createRole (h : g.Harmless) (draft : RoleDraft) :
    StillIf Failed (createRole ⟨g, limits⟩ draft).run := by
  unfold createRole
  cases NonBlank.read draft.name with
  | ok name => exact h.createRole _
  | error fault => exact fun _ _ => rfl

/-- To ask whether a role may be changed is to read it. -/
theorem still_requireMutable (h : g.Harmless) (id : RoleId) :
    Still (requireMutable ⟨g, limits⟩ id).run :=
  (h.getRole id).bind_attempt fun _ => still_liftExcept _

/-- If the role may be changed, a failure is that of the update itself. -/
theorem stillIf_updateRole (h : g.Harmless) (id : RoleId) (edit : RoleEdit) :
    StillIf Failed (updateRole ⟨g, limits⟩ id edit).run :=
  (still_requireMutable limits h id).bind_stillIf fun _ => h.updateRole id _

/-- If the role may be changed, a failure is that of the deletion itself. -/
theorem stillIf_deleteRole (h : g.Harmless) (id : RoleId) :
    StillIf Failed (deleteRole ⟨g, limits⟩ id).run :=
  (still_requireMutable limits h id).bind_stillIf fun _ => h.deleteRole id

/-! ## Members -/

theorem still_members (h : g.Harmless) (role : RoleId) : Still (members ⟨g, limits⟩ role).run :=
  (h.listMembers role).bind_attempt fun _ => still_pure _

theorem still_planMembers (h : g.Harmless) (role : RoleId) (desired : List UserId) :
    Still (planMembers ⟨g, limits⟩ role desired).run :=
  ((h.listMembers role).bind_attempt fun _ => still_pure _).bind_attempt fun _ => still_pure _

/-- Where a report has no success, each outcome in it is a failure. -/
theorem failed_of_succeeded_eq_nil {role : RoleId} {outcomes : List Outcome}
    (h : (Report.ofOutcomes role outcomes).succeeded = []) : ∀ x ∈ outcomes, Failed x.result := by
  rintro ⟨o, result⟩ hx
  cases result with
  | error fault => trivial
  | ok u =>
    have ho : o ∈ (Report.ofOutcomes role outcomes).succeeded := Report.mem_succeeded_iff.mpr hx
    rw [h] at ho
    cases ho

/-- Carrying out a plan changes nothing if nothing in it succeeds. -/
theorem stillIf_execute (h : g.Harmless) (plan : Plan) :
    StillIf (fun report => report.succeeded = []) (execute ⟨g, limits⟩ plan) := by
  intro s hs
  rw [run_execute] at hs ⊢
  cases he : plan.isEmpty with
  | true => rfl
  | false =>
    rw [he] at hs
    exact h.changeAll _ _ _ s (failed_of_succeeded_eq_nil hs)

/-- A batch fails as a whole if all of its calls fail, and each of them leaves no trace. -/
theorem stillIf_executeAll (h : g.Harmless) (plan : Plan) :
    StillIf Failed (executeAll ⟨g, limits⟩ plan).run := by
  intro s hs
  rw [run_executeAll] at hs ⊢
  refine stillIf_execute limits h plan s ?_
  rw [Report.result_eq] at hs
  split at hs
  next hnone => exact hnone.2
  next => cases hs

/-- After the batch only the members are read again, so it is the batch that fails or the look
before it. -/
theorem stillIf_saveMembers (h : g.Harmless) (role : RoleId) (desired : List UserId) :
    StillIf Failed (saveMembers ⟨g, limits⟩ role desired).run := by
  have hplan : Still ((planMembers ⟨g, limits⟩ role desired).adapt BatchFault.call).run :=
    still_planMembers limits h role desired
  -- the members are read again when the batch has its result, and that reading may fail
  refine hplan.bind_stillIf fun plan => (stillIf_executeAll limits h plan).bind_attempt ?_
  intro report s hs
  rw [run_lift_bind] at hs
  exact hs

/-- A save that is answered did not fail altogether. -/
theorem status_of_saved {a : Administrator (StateM σ)} {role : RoleId} {desired : List UserId}
    {s : σ} {saved : Saved} (h : ((a.saveMembers role desired).run.run s).1 = .ok saved) :
    saved.report.status ≠ .failed := by
  rw [run_saveMembers] at h
  generalize (a.gateway.listMembers role).run.run s = read at h
  obtain ⟨result, s₁⟩ := read
  cases result with
  | error fault => cases h
  | ok users =>
    dsimp only at h
    generalize ((a.execute (.compute role (idsOf users).toList desired)).run s₁).1 = report at h
    have hresult : ∀ r, report.result = .ok r → r.status ≠ .failed := by
      intro r hr
      unfold Report.result at hr
      split at hr
      next => cases hr
      next hstatus => cases hr; rw [hstatus]; nofun
      next hstatus => cases hr; rw [hstatus]; nofun
    cases hr : report.result with
    | error fault => rw [hr] at h; cases h
    | ok r =>
      rw [hr] at h
      cases h
      exact hresult r hr

/-! ## Whatever is asked -/

/-- A task that fails has changed nothing. -/
theorem Task.stillIf_failed (t : Task) (h : g.Harmless) :
    StillIf Failed (t.perform ⟨g, limits⟩).run := by
  have hread : ∀ {α : Type} {x : Attempt (StateM σ) α}, Still x.run →
      StillIf Failed (ended (x.adapt BatchFault.call)).run := fun hx =>
    ((hx.stillIf _).adapt _).ended
  cases t with
  | listRoles => exact hread (still_listRoles limits h)
  | findRole reference => exact hread (still_findRole limits h reference)
  | listPermissions => exact hread (still_listPermissions limits h)
  | listUsers => exact hread (still_listUsers limits h)
  | createRole draft => exact ((stillIf_createRole limits h draft).adapt _).ended
  | updateRole id edit => exact ((stillIf_updateRole limits h id edit).adapt _).ended
  | deleteRole id => exact ((stillIf_deleteRole limits h id).adapt _).ended
  | members role => exact hread (still_members limits h role)
  | planMembers role desired => exact hread (still_planMembers limits h role desired)
  | saveMembers role desired => exact (stillIf_saveMembers limits h role desired).ended
  | startSave role desired => exact (stillIf_saveMembers limits h role desired.toList).ended
  | retry report => exact (stillIf_executeAll limits h report.retryPlan).ended
  | execute plan => exact fun _ hs => hs.elim

end Administrator

namespace Command

open Administrator

variable {g : Gateway (StateM σ)} (limits : Limits)

/-- What a command answers when nothing came of it. -/
def Failing : Except Fault Output → Prop
  | .ok output => output.status = .failed
  | .error _ => True

/-- An output of success is no failure. -/
theorem not_failing_succeeded (lines : List String) :
    ¬ Failing (.ok (Output.succeeded lines)) := nofun

/-- A command fails with its task, or with an output that says that all has failed. -/
theorem stillIf_replaceMembers (h : g.Harmless) (r : Role) (desired : List UserId) :
    StillIf Failing (replaceMembers ⟨g, limits⟩ r desired).run := by
  intro s hs
  rw [replaceMembers, run_lift_bind, run_liftExcept] at hs ⊢
  refine stillIf_saveMembers limits h r.id _ s ?_
  cases hsaved : ((saveMembers ⟨g, limits⟩ r.id (SortedSet.ofList desired).toList).run.run s).1 with
  | error fault => trivial
  | ok saved =>
    -- the status shown is that of a report that was not all failures
    have hstatus := status_of_saved hsaved
    have hs : Failing (Output.ofSave r (.ok saved)) := hsaved ▸ hs
    exact absurd hs hstatus

/-- A command that fails, or says that everything failed, has changed nothing. -/
theorem stillIf_failing (c : Command) (h : g.Harmless) :
    StillIf Failing (c.run ⟨g, limits⟩).run := by
  have hread : ∀ {α : Type} {x : Attempt (StateM σ) α} {f : α → List String}, Still x.run →
      StillIf Failing (x >>= fun a => pure (Output.succeeded (f a))).run := fun hx =>
    hx.bind_stillIf fun _ => (still_pure _).stillIf _
  have hchange : ∀ {α : Type} {x : Attempt (StateM σ) α} {f : α → List String},
      StillIf Failed x.run →
      StillIf Failing (x >>= fun a => pure (Output.succeeded (f a))).run := fun hx =>
    hx.bind_attempt fun _ _ => not_failing_succeeded _
  cases c with
  | roles => exact hread (still_listRoles limits h)
  | permissions => exact hread (still_listPermissions limits h)
  | users => exact hread (still_listUsers limits h)
  | members role =>
    exact (still_findRole limits h role).bind_stillIf fun r => hread (still_members limits h r.id)
  | sync role dryRun desired =>
    refine (still_findRole limits h role).bind_stillIf fun r => ?_
    cases dryRun with
    | true => exact hread (still_planMembers limits h r.id desired)
    | false => exact stillIf_replaceMembers limits h r desired
  | createRole name requested => exact hchange (stillIf_createRole limits h _)
  | deleteRole role =>
    exact (still_findRole limits h role).bind_stillIf fun r =>
      hchange (stillIf_deleteRole limits h r.id)

end Command

end Rolebook
