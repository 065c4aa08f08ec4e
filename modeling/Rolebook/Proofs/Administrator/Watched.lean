import Rolebook.Proofs.Administrator.Alike
import Rolebook.Proofs.Administrator.Members
import Rolebook.Proofs.Membership.Record

/-!
# A save, call by call

What a save asks of a backend, whatever the backend answers and however long it takes. The gateway
is any gateway, and a batch is made of calls that begin and end as any `begin` has it; under watch
(`Gateway.watched`) it answers just the same and everything is written down.

`saveMembers_calls` reads the whole save off the record: one read, the operations of the plan each
once, and one more read unless everything failed.
-/

namespace Rolebook

variable {σ : Type}

namespace Gateway

/-- A call that is written down. -/
def asking {α : Type} (c : Call) (x : Attempt (StateM σ) α) :
    Attempt (StateM (σ × List Event)) α :=
  .mk fun s =>
    let done := x.run.run s.1
    (done.1, done.2, s.2 ++ [.asked c])

/-- A reading of the members that is written down. -/
def reading (role : RoleId) (x : Attempt (StateM σ) (List User)) :
    Attempt (StateM (σ × List Event)) (List User) :=
  .mk fun s =>
    let done := x.run.run s.1
    (done.1, done.2, s.2 ++ [.read role done.1])

/-- The gateway whose batches are made of calls that begin as given. -/
def batching (g : Gateway (StateM σ)) (begin : RoleId → Nat → Operation → StateM σ (Pending σ))
    (elapse : Nat → σ → σ) : Gateway (StateM σ) :=
  { g with changeAll := FanOut.changeAll begin elapse }

/-- That gateway under watch. -/
def watched (g : Gateway (StateM σ)) (begin : RoleId → Nat → Operation → StateM σ (Pending σ))
    (elapse : Nat → σ → σ) : Gateway (StateM (σ × List Event)) where
  listRoles := asking .listRoles g.listRoles
  getRole id := asking (.getRole id) (g.getRole id)
  createRole d := asking (.createRole d) (g.createRole d)
  updateRole id e := asking (.updateRole id e) (g.updateRole id e)
  deleteRole id := asking (.deleteRole id) (g.deleteRole id)
  listPermissions := asking .listPermissions g.listPermissions
  listUsers := asking .listUsers g.listUsers
  listMembers id := reading id (g.listMembers id)
  change id o := asking (.change id o) (g.change id o)
  changeAll := FanOut.changeAll (FanOut.watchedBegin begin) (FanOut.watchedElapse elapse)

end Gateway

namespace Administrator

open FanOut (CarriedOut)

variable (g : Gateway (StateM σ)) (begin : RoleId → Nat → Operation → StateM σ (Pending σ))
  (elapse : Nat → σ → σ) (limits : Limits)

/-- What is seen of a plan being carried out. -/
theorem carriedOut_execute {plan : Plan} (hplan : plan.Consistent) (s : σ) (before : List Event) :
    let executed := ((⟨g.watched begin elapse, limits⟩ : Administrator _).execute plan).run
      (s, before)
    ∃ seen, executed.2.2 = before ++ seen ∧
      CarriedOut plan.role limits.timeout plan.operations seen executed.1 := by
  dsimp only
  rw [run_execute]
  cases he : plan.isEmpty with
  | true =>
    refine ⟨[], (List.append_nil before).symm, ?_⟩
    rw [Plan.operations_eq_nil_iff.mpr he]
    exact FanOut.carriedOut_nil plan.role limits.timeout
  | false =>
    have hd : plan.operations.Nodup := List.Nodup.of_map _ hplan.users_nodup
    exact FanOut.carriedOut_changeAll begin elapse limits.effective plan.role hd s before

/-- A call that goes on record answers as it would without one. -/
theorem alike_asking {α : Type} (c : Gateway.Call) (x : Attempt (StateM σ) α) :
    Alike (fun s' s => s'.1 = s) (Gateway.asking c x).run x.run := by
  rintro s _ rfl
  exact ⟨rfl, rfl⟩

/-- A gateway under watch acts as it does without. -/
theorem alikeGateways_watched :
    AlikeGateways (fun s' s => s'.1 = s) true (g.watched begin elapse)
      (g.batching begin elapse) where
  listRoles := alike_asking _ _
  getRole _ := alike_asking _ _
  createRole _ _ := alike_asking _ _
  updateRole _ _ := alike_asking _ _
  deleteRole _ := alike_asking _ _
  listPermissions := alike_asking _ _
  listUsers := alike_asking _ _
  listMembers _ := by
    rintro s _ rfl
    exact ⟨rfl, rfl⟩
  changeAll l id os := shadows_iff_alike.mp
    (FanOut.shadows_changeAll (FanOut.beginsAs_watchedBegin begin) elapse l id os)

/-- A save is the same under watch as it is without. -/
theorem shadows_saveMembers (role : RoleId) (desired : List UserId) :
    Shadows ((⟨g.watched begin elapse, limits⟩ : Administrator _).saveMembers role desired).run
      ((⟨g.batching begin elapse, limits⟩ : Administrator _).saveMembers role desired).run :=
  shadows_iff_alike.mpr
    (alike_saveMembers limits (alikeGateways_watched g begin elapse) role desired)

variable {g begin elapse limits}

/-- A reading answers what it answers without watch, and that is seen. -/
theorem run_listMembers_watched (role : RoleId) (s : σ × List Event) :
    ((⟨g.watched begin elapse, limits⟩ : Administrator _).gateway.listMembers role).run.run s =
      (((g.listMembers role).run.run s.1).1, ((g.listMembers role).run.run s.1).2,
        s.2 ++ [.read role ((g.listMembers role).run.run s.1).1]) := rfl

/-- A reading of members goes on record with what was read. -/
theorem run_memberIds_watched (role : RoleId) (s : σ × List Event) :
    ((⟨g.watched begin elapse, limits⟩ : Administrator _).memberIds role).run.run s =
      (((g.listMembers role).run.run s.1).1.map idsOf, ((g.listMembers role).run.run s.1).2,
        s.2 ++ [.read role ((g.listMembers role).run.run s.1).1]) := by
  rw [run_memberIds, run_listMembers_watched]
  cases ((g.listMembers role).run.run s.1).1 <;> rfl

/-- The report of a batch that was carried out stands for an error when there was something to do
and nothing succeeded; the error counts all that there was to do. -/
theorem result_of_carriedOut {plan : Plan} {timeout : Nat} {seen : List Event} {report : Report}
    (h : CarriedOut plan.role timeout plan.operations seen report) :
    report.result =
      if plan.operations ≠ [] ∧ report.succeeded = [] then
        .error (.allFailed plan.role plan.size report.failures)
      else .ok report := by
  have hlength := h.split.length_eq
  rw [List.length_append, List.length_map, Plan.length_operations] at hlength
  rw [Report.result_eq]
  by_cases hnone : report.succeeded = []
  · rw [hnone, List.length_nil, Nat.zero_add] at hlength
    have hiff : report.failures ≠ [] ↔ plan.operations ≠ [] := by
      rw [← List.length_pos_iff, ← List.length_pos_iff, hlength, Plan.length_operations]
    simp only [hiff, hnone, and_true, h.role_eq, hlength]
  · rw [if_neg fun hn => hnone hn.2, if_neg fun hn => hnone hn.2]

/-- A save under watch: the members are read, the operations of the plan are begun, and unless
everything failed the members are read again. -/
theorem run_saveMembers_watched (g : Gateway (StateM σ))
    (begin : RoleId → Nat → Operation → StateM σ (Pending σ)) (elapse : Nat → σ → σ)
    (limits : Limits) (role : RoleId) (desired : List UserId) (s : σ) (before : List Event) :
    let saved := ((⟨g.watched begin elapse, limits⟩ : Administrator _).saveMembers role
      desired).run.run (s, before)
    match ((g.listMembers role).run.run s).1 with
    | .error fault =>
      saved.1 = .error (.call fault) ∧ saved.2.2 = before ++ [.read role (.error fault)]
    | .ok users =>
      let plan := Plan.compute role (idsOf users).toList desired
      ∃ batch report, CarriedOut role limits.timeout plan.operations batch report ∧
        if plan.operations ≠ [] ∧ report.succeeded = [] then
          saved.1 = .error (.allFailed role plan.size report.failures) ∧
            saved.2.2 = before ++ [.read role (.ok users)] ++ batch
        else ∃ second,
          saved.1 = .ok ⟨plan, report, second.toOption.map idsOf⟩ ∧
            saved.2.2 = before ++ [.read role (.ok users)] ++ batch ++ [.read role second] := by
  intro saved
  have hsaved : saved = _ :=
    run_saveMembers ⟨g.watched begin elapse, limits⟩ role desired (s, before)
  rw [run_listMembers_watched] at hsaved
  dsimp only at hsaved
  cases hread : ((g.listMembers role).run.run s).1 with
  | error fault =>
    rw [hread] at hsaved
    rw [hsaved]
    exact ⟨rfl, rfl⟩
  | ok users =>
    rw [hread] at hsaved
    dsimp only at hsaved ⊢
    generalize hplan : Plan.compute role (idsOf users).toList desired = plan at hsaved ⊢
    have hconsistent : plan.Consistent := hplan ▸ Plan.consistent_compute role _ desired
    have hrole : plan.role = role := hplan ▸ rfl
    obtain ⟨batch, hbatch, hcarried⟩ := carriedOut_execute g begin elapse limits hconsistent
      ((g.listMembers role).run.run s).2 (before ++ [.read role (.ok users)])
    have hreport := result_of_carriedOut hcarried
    generalize ((⟨g.watched begin elapse, limits⟩ : Administrator _).execute plan).run _ = executed
      at hsaved hbatch hcarried hreport
    rw [hrole] at hcarried hreport
    refine ⟨batch, executed.1, hcarried, ?_⟩
    by_cases hall : plan.operations ≠ [] ∧ executed.1.succeeded = []
    · rw [if_pos hall] at hreport ⊢
      rw [hreport] at hsaved
      rw [hsaved]
      exact ⟨rfl, hbatch⟩
    · rw [if_neg hall] at hreport ⊢
      rw [hreport] at hsaved
      dsimp only at hsaved
      rw [run_memberIds_watched] at hsaved
      refine ⟨((g.listMembers role).run.run executed.2.1).1, ?_⟩
      rw [hsaved, hbatch]
      refine ⟨?_, rfl⟩
      cases ((g.listMembers role).run.run executed.2.1).1 <;> rfl

/-- **What a save asks of a backend.** Whatever the backend answers, and watched or not, a save
first reads the members once. If that fails, the save fails with the same fault and nothing else is
asked. If not, each operation of the plan is begun once, and reported as it was answered in time.
If there was something to do and none of it succeeded, the save fails with all that failed, and
nothing else is asked; if not, the members are read once more, and the save tells what was read, if
that did not fail. A save that goes on by itself comes to the same and asks the same. -/
theorem saveMembers_calls (g : Gateway (StateM σ))
    (begin : RoleId → Nat → Operation → StateM σ (Pending σ)) (elapse : Nat → σ → σ)
    (limits : Limits) (role : RoleId) (desired : List UserId) (s : σ) :
    let unwatched : Administrator (StateM σ) := ⟨g.batching begin elapse, limits⟩
    let watched : Administrator (StateM (σ × List Event)) := ⟨g.watched begin elapse, limits⟩
    let saved := (watched.saveMembers role desired).run.run (s, [])
    (unwatched.saveMembers role desired).run.run s = (saved.1, saved.2.1) ∧
    (watched.startSave role (.ofList desired)).run.run (s, []) = saved ∧
    match ((g.listMembers role).run.run s).1 with
    | .error fault =>
      saved.1 = .error (.call fault) ∧ saved.2.2 = [.read role (.error fault)]
    | .ok users =>
      let plan := Plan.compute role (idsOf users).toList desired
      ∃ batch report, CarriedOut role limits.timeout plan.operations batch report ∧
        if plan.operations ≠ [] ∧ report.succeeded = [] then
          saved.1 = .error (.allFailed role plan.size report.failures) ∧
            saved.2.2 = [.read role (.ok users)] ++ batch
        else ∃ second,
          saved.1 = .ok ⟨plan, report, second.toOption.map idsOf⟩ ∧
            saved.2.2 = [.read role (.ok users)] ++ batch ++ [.read role second] := by
  intro unwatched watched saved
  obtain ⟨hresult, hstate⟩ := shadows_saveMembers g begin elapse limits role desired (s, [])
  refine ⟨Prod.ext hresult.symm hstate.symm, by rw [startSave_ofList], ?_⟩
  exact run_saveMembers_watched g begin elapse limits role desired s []

end Administrator

end Rolebook
