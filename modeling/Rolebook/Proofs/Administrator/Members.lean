import Rolebook.Administrator.Members
import Rolebook.Proofs.Membership.Report

/-!
# What administering members comes to

An administrator whose gateway changes a state: each function on members gets one equation for its
run, in terms of the runs of the gateway's own calls. What a save is on a particular backend
follows from `run_saveMembers` and from what the calls of that backend do. `startSave_ofList` says
that a save that goes on by itself is the same save.
-/

namespace Rolebook.Administrator

variable {σ : Type}

/-- One computation and then another: the second runs on what the first leaves, unless the first
fails. -/
theorem run_attempt_bind {ε α β : Type} (x : ExceptT ε (StateM σ) α)
    (k : α → ExceptT ε (StateM σ) β) (s : σ) :
    (x >>= k).run.run s =
      match x.run.run s with
      | (.ok a, s') => (k a).run.run s'
      | (.error fault, s') => (.error fault, s') := by
  rw [ExceptT.run_bind, StateT.run_bind]
  cases h : x.run.run s with
  | mk result s' => cases result <;> rfl

/-- A computation that cannot fail always goes on. -/
theorem run_lift_bind {ε α β : Type} (x : StateM σ α) (k : α → ExceptT ε (StateM σ) β) (s : σ) :
    (ExceptT.lift x >>= k).run.run s = (k (x.run s).1).run.run (x.run s).2 := by
  rw [run_attempt_bind]
  rfl

theorem run_liftExcept {ε α : Type} (r : Except ε α) (s : σ) :
    (liftExcept r : ExceptT ε (StateM σ) α).run.run s = (r, s) := by
  cases r <;> rfl

theorem run_adapt {ε ε' α : Type} (f : ε → ε') (x : ExceptT ε (StateM σ) α) (s : σ) :
    (x.adapt f).run.run s = ((x.run.run s).1.mapError f, (x.run.run s).2) := rfl

/-- The ids of the users in an answer. -/
def idsOf (users : List User) : SortedSet UserId := .ofList (users.map (·.id))

variable (a : Administrator (StateM σ)) (role : RoleId) (desired : List UserId)

theorem run_memberIds (s : σ) :
    (a.memberIds role).run.run s =
      match (a.gateway.listMembers role).run.run s with
      | (.ok users, s') => (.ok (idsOf users), s')
      | (.error fault, s') => (.error fault, s') := by
  rw [memberIds, run_attempt_bind]
  cases (a.gateway.listMembers role).run.run s with
  | mk result s' => cases result <;> rfl

/-- A plan is made of the members as they are read, or fails as the reading does. -/
theorem run_planMembers (s : σ) :
    (a.planMembers role desired).run.run s =
      match (a.gateway.listMembers role).run.run s with
      | (.ok users, s') => (.ok (.compute role (idsOf users).toList desired), s')
      | (.error fault, s') => (.error fault, s') := by
  rw [planMembers, run_attempt_bind, run_memberIds]
  cases (a.gateway.listMembers role).run.run s with
  | mk result s' => cases result <;> rfl

/-- An empty plan is reported without a call; any other is one batch. -/
theorem run_execute (plan : Plan) (s : σ) :
    (a.execute plan).run s =
      if plan.isEmpty then (.empty plan.role, s)
      else
        let outcomes := (a.gateway.changeAll a.limits.effective plan.role plan.operations).run s
        (.ofOutcomes plan.role outcomes.1, outcomes.2) := by
  unfold execute
  cases plan.isEmpty <;> rfl

/-- A plan that is carried out has a report; the failure of all of it is made of that report. -/
theorem run_executeAll (plan : Plan) (s : σ) :
    (a.executeAll plan).run.run s
      = (((a.execute plan).run s).1.result, ((a.execute plan).run s).2) := by
  rw [executeAll, run_lift_bind, run_liftExcept]

/-- A save: the members are read, the plan is carried out, and the members are read again unless
all of the plan failed. -/
theorem run_saveMembers (s : σ) :
    (a.saveMembers role desired).run.run s =
      match (a.gateway.listMembers role).run.run s with
      | (.error fault, s₁) => (.error (.call fault), s₁)
      | (.ok users, s₁) =>
        let plan := Plan.compute role (idsOf users).toList desired
        let executed := (a.execute plan).run s₁
        match executed.1.result with
        | .error fault => (.error fault, executed.2)
        | .ok report =>
          let confirmed := (a.memberIds role).run.run executed.2
          (.ok ⟨plan, report, confirmed.1.toOption⟩, confirmed.2) := by
  rw [saveMembers, run_attempt_bind, run_adapt, run_planMembers]
  cases (a.gateway.listMembers role).run.run s with
  | mk result s₁ =>
    cases result with
    | error fault => rfl
    | ok users =>
      show (a.executeAll _ >>= _).run.run s₁ = _
      rw [run_attempt_bind, run_executeAll]
      dsimp only
      cases ((a.execute (.compute role (idsOf users).toList desired)).run s₁).1.result with
      | error fault => rfl
      | ok report =>
        dsimp only
        rw [run_lift_bind]
        rfl

/-- A report lists operations in their own order, whatever the order in which they came to an end.
-/
theorem inOrder_execute (plan : Plan) (s : σ) : ((a.execute plan).run s).1.InOrder := by
  rw [run_execute]
  cases plan.isEmpty with
  | true => exact Report.inOrder_empty plan.role
  | false => exact Report.inOrder_ofOutcomes plan.role _

/-- A save lists operations in their own order, whether it has saved something or all has failed. -/
theorem inOrder_saveMembers (s : σ) :
    match ((a.saveMembers role desired).run.run s).1 with
    | .ok saved => saved.report.InOrder
    | .error (.allFailed role' _ failures) => (Report.ofFailures role' failures).InOrder
    | .error (.call _) => True := by
  rw [run_saveMembers]
  rcases (a.gateway.listMembers role).run.run s with ⟨fault | users, s₁⟩
  · trivial
  · dsimp only
    have horder := a.inOrder_execute (.compute role (idsOf users).toList desired) s₁
    generalize (a.execute (.compute role (idsOf users).toList desired)).run s₁ = executed at horder ⊢
    by_cases hall : executed.1.failures ≠ [] ∧ executed.1.succeeded = []
    · rw [Report.result_eq, if_pos hall]
      exact horder.ofFailures _
    · rw [Report.result_eq, if_neg hall]
      exact horder

/-- A save that goes on by itself is the same save: the list of users wanted counts as a set. -/
theorem startSave_ofList : a.startSave role (.ofList desired) = a.saveMembers role desired := by
  have hplan : ∀ current : List UserId,
      Plan.compute role current (SortedSet.ofList desired).toList = .compute role current desired :=
    fun current => Plan.compute_congr role (fun _ => Iff.rfl) fun _ => SortedSet.mem_ofList
  unfold startSave saveMembers planMembers
  simp only [hplan]

end Rolebook.Administrator
