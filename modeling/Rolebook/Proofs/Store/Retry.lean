import Rolebook.Proofs.Store.Save

/-!
# Trying again what failed

After a save that partly fails, what failed is tried again, and what fails then once more, while
users are registered and failures are arranged or cleared in between. A `Standing` is where that
has got to: the latest report and the store. `Agrees` is the invariant: the failures of the report
are, one by one, the operations of the plan that a reading of the members would give now. It holds
because what is left of a plan that was partly carried out is the plan for what there is to do
(`compute_applyAll`), and because collecting its operations gives that plan again
(`ofOperations_operations`).

`retry_agrees` is the result over whole histories: retrying is as good as planning afresh, touches
no user whose operation has succeeded, and never has more to do than before.
-/

namespace Rolebook.Store

/-! ## Histories -/

/-- The latest report after a save or a retry: the one returned, or the one made of the failures of
an error in which everything failed. -/
def reportOf : Except BatchFault Report → Option Report
  | .ok r => some r
  | .error (.allFailed role _ failures) => some (.ofFailures role failures)
  | .error (.call _) => none

/-- What there is after a save or a retry. -/
structure Standing where
  report : Report
  store : Store

/-- What there is after a call that answered and left a store, if there is a report. -/
def Standing.of (answered : Except BatchFault Report × Store) : Option Standing :=
  (reportOf answered.1).map fun r => ⟨r, answered.2⟩

/-- A retry, and what happened before it since the last call. -/
structure Round where
  between : List Act
  moment : Moment
  limits : Limits

/-- After the save. -/
def saved (s : Store) (m : Moment) (limits : Limits) (role : RoleId) (desired : List UserId) :
    Option Standing :=
  let answered := ((administrator m limits).saveMembers role desired).run.run s
  Standing.of (answered.1.map (·.report), answered.2)

/-- After one more round. -/
def Standing.again (x : Standing) (r : Round) : Option Standing :=
  Standing.of (((administrator r.moment r.limits).retry x.report).run.run (x.store.after r.between))

/-- All that there is after this and after each of more rounds. -/
def Standing.trail (x : Standing) : List Round → Option (List Standing)
  | [] => some [x]
  | r :: rs => do
    let y ← x.again r
    let ys ← y.trail rs
    return x :: ys

/-- The operations that the latest call left undone. -/
def Standing.outstanding (x : Standing) : List Operation := x.report.failures.map (·.operation)

/-- The operations that the latest call was about. -/
def Standing.attempted (x : Standing) : List Operation := x.report.succeeded ++ x.outstanding

theorem Standing.attempted_of_outstanding {x : Standing} {o : Operation} (h : o ∈ x.outstanding) :
    o ∈ x.attempted := List.mem_append_right _ h

/-! ## One plan carried out -/

/-- A result keeps all of the report it stands for. -/
theorem reportOf_result (r : Report) : reportOf r.result = some r := by
  rw [Report.result_eq]
  split
  next h =>
    show some (Report.ofFailures r.role r.failures) = some r
    rw [Report.ofFailures, ← h.2]
  next => rfl

/-- What there is after carrying out a plan but for what fails. -/
def carriedOut (s : Store) (role : RoleId) (p : Plan) : Standing :=
  ⟨⟨role, s.doable p.operations, s.failures p.operations⟩,
    s.applyChanges role (s.doable p.operations)⟩

variable {s : Store} {role : RoleId} {desired : List UserId}

/-- What is left of a plan after it was carried out is what fails for its user. -/
theorem outstanding_carriedOut (s : Store) (role : RoleId) (p : Plan) :
    (s.carriedOut role p).outstanding = p.operations.filter s.fails :=
  operations_failures s p.operations

/-- All operations of a plan are attempted. -/
theorem attempted_carriedOut (s : Store) (role : RoleId) (p : Plan) :
    (s.carriedOut role p).attempted.Perm p.operations := by
  rw [Standing.attempted, outstanding_carriedOut]
  show (p.operations.filter _ ++ _).Perm _
  refine List.perm_append_comm.trans ?_
  exact List.filter_append_perm s.fails p.operations

theorem map_report (r : Except BatchFault Report) (plan : Plan)
    (confirmed : Option (SortedSet UserId)) :
    (r.map fun report => (⟨plan, report, confirmed⟩ : Saved)).map (·.report) = r := by
  cases r <;> rfl

/-- A save carries out the plan that a reading of the members gives. -/
theorem saved_eq (hs : s.Sound) (h : s.roles.contains role = true) (m : Moment) (limits : Limits)
    (desired : List UserId) :
    s.saved m limits role desired = some (s.carriedOut role (s.plan role desired)) := by
  rw [saved, run_saveMembers_stored hs h m limits desired]
  dsimp only
  rw [map_report, Standing.of, reportOf_result]
  rfl

/-- A retry carries out the plan of what failed. -/
theorem again_eq {x : Standing} {r : Round} (hrole : x.report.role = role)
    (h : (x.store.after r.between).roles.contains role = true) :
    x.again r = some ((x.store.after r.between).carriedOut role x.report.retryPlan) := by
  have hplan : x.report.retryPlan.role = role := (Plan.role_foldl_add _ _).trans hrole
  rw [Standing.again, Administrator.retry, Administrator.run_executeAll,
    run_execute hplan h r.moment r.limits, Standing.of, reportOf_result]
  rfl

/-- What was done and what is left to do are about different users. -/
theorem user_ne_of_sides {p : Plan} (hp : p.Consistent) {o o' : Operation}
    (ho : o ∈ s.doable p.operations) (ho' : o' ∈ p.operations.filter s.fails) :
    o.user ≠ o'.user := by
  intro he
  obtain ⟨hm, hdone⟩ := List.mem_filter.mp ho
  obtain ⟨hm', hfails⟩ := List.mem_filter.mp ho'
  have heq : o = o' := List.inj_on_of_nodup_map hp.users_nodup hm hm' he
  rw [heq, hfails] at hdone
  cases hdone

/-- A user about whom nothing was done holds the role just as before. -/
theorem mem_holders_carriedOut (role : RoleId) {p : Plan} (hp : p.Consistent) {u : UserId}
    (h : ∀ o ∈ s.doable p.operations, o.user ≠ u) :
    u ∈ (s.carriedOut role p).store.holders role ↔ u ∈ s.holders role := by
  have hnodup : ((s.doable p.operations).map Operation.user).Nodup :=
    hp.users_nodup.sublist (List.filter_sublist.map _)
  show u ∈ (s.applyChanges role (s.doable p.operations)).holders role ↔ _
  rw [holders_applyChanges, mem_applyAll hnodup]
  constructor
  · rintro (ha | ⟨hm, -⟩)
    · exact absurd rfl (h _ ha)
    · exact hm
  · exact fun hm => Or.inr ⟨hm, fun hu => h _ hu rfl⟩

/-- The plan for what is left to do is the part of the plan that failed. -/
theorem plan_carriedOut (s : Store) (role : RoleId) (desired : List UserId) :
    (s.carriedOut role (s.plan role desired)).store.plan role desired
      = (s.plan role desired).part s.fails := by
  show Plan.compute role ((s.applyChanges role _).holders role).toList desired = _
  rw [holders_applyChanges]
  exact Plan.compute_applyAll role (s.holders role) desired s.fails

/-! ## What a call keeps -/

/-- The latest report agrees with planning afresh: its failures are the operations of the plan that
the members give now. Nobody with such an operation has been touched since `before`. -/
structure Agrees (role : RoleId) (desired : List UserId) (before : Store) (x : Standing) :
    Prop where
  sound : x.store.Sound
  stored : x.store.roles.contains role = true
  role_eq : x.report.role = role
  outstanding_eq : x.outstanding = (x.store.plan role desired).operations
  settled : ∀ o ∈ x.report.succeeded, ∀ o' ∈ x.outstanding, o.user ≠ o'.user
  unmoved : ∀ o ∈ x.outstanding, o.user ∈ x.store.holders role ↔ o.user ∈ before.holders role

/-- What a later call has to do with an earlier one: it is about nothing but what the earlier one
left undone, thus about no user whose operation has succeeded, and it leaves no more undone. -/
structure Follows (role : RoleId) (x y : Standing) : Prop where
  attempted : ∀ o ∈ y.attempted, o ∈ x.outstanding
  outstanding : ∀ o ∈ y.outstanding, o ∈ x.outstanding
  spared : ∀ o ∈ x.report.succeeded, ∀ o' ∈ y.attempted, o.user ≠ o'.user
  kept : ∀ u : UserId, (∀ o ∈ x.outstanding, o.user ≠ u) →
    (u ∈ y.store.holders role ↔ u ∈ x.store.holders role)

/-- What follows on what follows, follows. -/
theorem Follows.trans {x y z : Standing} (h : Follows role x y) (k : Follows role y z) :
    Follows role x z where
  attempted o ho := h.outstanding o (k.attempted o ho)
  outstanding o ho := h.outstanding o (k.outstanding o ho)
  spared o ho o' ho' := h.spared o ho o' (Standing.attempted_of_outstanding (k.attempted o' ho'))
  kept u hu := (k.kept u fun o ho => hu o (h.outstanding o ho)).trans (h.kept u hu)

/-- Carrying out the plan that the members give makes the report agree with the store. -/
theorem agrees_carriedOut (hs : s.Sound) (h : s.roles.contains role = true)
    (desired : List UserId) {before : Store}
    (hbefore : ∀ o ∈ (s.plan role desired).operations,
      (o.user ∈ s.holders role ↔ o.user ∈ before.holders role)) :
    Agrees role desired before (s.carriedOut role (s.plan role desired)) := by
  have hplan : (s.plan role desired).Consistent := consistent_plan s role desired
  have hout := outstanding_carriedOut s role (s.plan role desired)
  have hsides : ∀ o ∈ s.doable (s.plan role desired).operations,
      ∀ o' ∈ (s.carriedOut role (s.plan role desired)).outstanding, o.user ≠ o'.user := by
    intro o ho o' ho'
    rw [hout] at ho'
    exact user_ne_of_sides hplan ho ho'
  refine ⟨hs.applyChanges_doable h _, contains_applyChanges h _, rfl, ?_, hsides, fun o ho => ?_⟩
  · rw [plan_carriedOut, Plan.operations_part, hout]
  · have hmem := mem_holders_carriedOut role hplan fun o' ho' => hsides o' ho' o ho
    rw [hout] at ho
    exact hmem.trans (hbefore o (List.mem_filter.mp ho).1)

/-- Carrying out what an earlier call left undone follows that call, if the members are still those
that it left. -/
theorem follows_carriedOut {x : Standing} {p : Plan} (hp : p.Consistent)
    (hops : p.operations = x.outstanding)
    (hsettled : ∀ o ∈ x.report.succeeded, ∀ o' ∈ x.outstanding, o.user ≠ o'.user)
    (hholders : s.holders role = x.store.holders role) :
    Follows role x (s.carriedOut role p) := by
  have hattempted : ∀ o ∈ (s.carriedOut role p).attempted, o ∈ x.outstanding := fun o ho =>
    hops ▸ (attempted_carriedOut s role p).mem_iff.mp ho
  refine ⟨hattempted, fun o ho => hattempted o (Standing.attempted_of_outstanding ho),
    fun o ho o' ho' => hsettled o ho o' (hattempted o' ho'), fun u hu => ?_⟩
  have hspared : ∀ o ∈ s.doable p.operations, o.user ≠ u := by
    intro o ho
    have hm : o ∈ p.operations := (List.mem_filter.mp ho).1
    rw [hops] at hm
    exact hu o hm
  rw [mem_holders_carriedOut role hp hspared, hholders]

/-- The plan of what failed is the plan that a reading of the members gives. -/
theorem Agrees.retryPlan_eq {before : Store} {x : Standing} (hx : Agrees role desired before x) :
    x.report.retryPlan = x.store.plan role desired := by
  have hplan : (x.store.plan role desired).Consistent := consistent_plan x.store role desired
  show Plan.ofOperations x.report.role x.outstanding = _
  rw [hx.role_eq, hx.outstanding_eq]
  exact hplan.ofOperations_operations

/-- One round: the retry agrees again, and follows the call before. -/
theorem Agrees.step {before : Store} {x : Standing} (hx : Agrees role desired before x) {r : Round}
    (hr : ∀ a ∈ r.between, a.Spares role) :
    ∃ y, x.again r = some y ∧ Agrees role desired before y ∧ Follows role x y := by
  have hsame : SameRole role x.store (x.store.after r.between) := spares_after hr hx.sound
  have hholders : (x.store.after r.between).holders role = x.store.holders role := hsame.holders_eq
  have hplan : (x.store.after r.between).plan role desired = x.store.plan role desired := by
    rw [plan, hholders]
    rfl
  have hstored : (x.store.after r.between).roles.contains role = true := by
    rw [SortedMap.contains, hsame.role]
    exact hx.stored
  have hagain := again_eq hx.role_eq hstored
  rw [hx.retryPlan_eq, ← hplan] at hagain
  have hsound := hx.sound.after r.between
  refine ⟨_, hagain, agrees_carriedOut hsound hstored desired fun o ho => ?_, ?_⟩
  · rw [hplan, ← hx.outstanding_eq] at ho
    rw [hholders]
    exact hx.unmoved o ho
  · have hops : ((x.store.after r.between).plan role desired).operations = x.outstanding := by
      rw [hplan, hx.outstanding_eq]
    exact follows_carriedOut (consistent_plan _ role desired) hops hx.settled hholders

/-! ## Whole histories -/

/-- Every standing of a history agrees, and each follows all that came before. -/
theorem Agrees.trail {before : Store} {x : Standing} (hx : Agrees role desired before x)
    {rounds : List Round} (hr : ∀ r ∈ rounds, ∀ a ∈ r.between, a.Spares role) :
    ∃ ys, x.trail rounds = some (x :: ys) ∧ ys.length = rounds.length ∧
      (∀ y ∈ x :: ys, Agrees role desired before y) ∧ (x :: ys).Pairwise (Follows role) := by
  induction rounds generalizing x with
  | nil =>
    refine ⟨[], rfl, rfl, fun y hy => ?_, List.pairwise_singleton ..⟩
    rw [List.mem_singleton.mp hy]
    exact hx
  | cons r rs ih =>
    obtain ⟨y, hagain, hy, hxy⟩ := hx.step (hr r (List.mem_cons_self ..))
    obtain ⟨zs, htrail, hlength, hall, hpairs⟩ :=
      ih hy fun r' hr' => hr r' (List.mem_cons_of_mem _ hr')
    refine ⟨y :: zs, ?_, congrArg (· + 1) hlength, fun w hw => ?_, ?_⟩
    · rw [Standing.trail, hagain]
      show (y.trail rs).bind _ = _
      rw [htrail]
      rfl
    · rcases List.mem_cons.mp hw with rfl | hw
      · exact hx
      · exact hall w hw
    · refine List.pairwise_cons.mpr ⟨fun w hw => ?_, hpairs⟩
      rcases List.mem_cons.mp hw with rfl | hw
      · exact hxy
      · exact hxy.trans ((List.pairwise_cons.mp hpairs).1 w hw)

/-- Nothing is left to do just when the members are those wanted. -/
theorem plan_operations_eq_nil_iff :
    (s.plan role desired).operations = [] ↔ ∀ u : UserId, u ∈ s.holders role ↔ u ∈ desired := by
  have hassign : ∀ u, .assign u ∈ (s.plan role desired).operations ↔
      u ∈ desired ∧ u ∉ s.holders role := fun _ => Plan.assign_mem_compute
  have hunassign : ∀ u, .unassign u ∈ (s.plan role desired).operations ↔
      u ∈ s.holders role ∧ u ∉ desired := fun _ => Plan.unassign_mem_compute
  constructor
  · intro h u
    rw [h] at hassign hunassign
    by_cases hd : u ∈ desired
    · exact ⟨fun _ => hd, fun _ => by_contra fun hn => List.not_mem_nil ((hassign u).mpr ⟨hd, hn⟩)⟩
    · exact ⟨fun hm => absurd ((hunassign u).mpr ⟨hm, hd⟩) List.not_mem_nil, fun h => absurd h hd⟩
  · intro h
    refine List.eq_nil_iff_forall_not_mem.mpr fun o ho => ?_
    cases o with
    | assign u =>
      obtain ⟨hd, hm⟩ := (hassign u).mp ho
      exact hm ((h u).mpr hd)
    | unassign u =>
      obtain ⟨hm, hd⟩ := (hunassign u).mp ho
      exact hd ((h u).mp hm)

/-- **Retrying is as good as planning afresh.** In a store left by any run, take a save for a stored
role and any number of retries, each of the latest report, with any acts in between that leave the
role alone. After each call, the plan for a retry is the plan that a reading of the members gives;
no user with an operation still to do has been touched since before the save; and a report without
failures means that the members are those wanted. Later calls are about nothing but what all the
earlier ones left undone. -/
theorem retry_agrees (acts : List Act) (m : Moment) (limits : Limits) (role : RoleId)
    (desired : List UserId) (rounds : List Round)
    (hstored : (empty.after acts).roles.contains role = true)
    (hspared : ∀ r ∈ rounds, ∀ a ∈ r.between, a.Spares role) :
    let s := empty.after acts
    ∃ trail, (s.saved m limits role desired).bind (·.trail rounds) = some trail ∧
      trail.length = rounds.length + 1 ∧
      (∀ x ∈ trail,
        (∀ (m' : Moment) (limits' : Limits),
          ((administrator m' limits').planMembers role desired).run.run x.store
            = (.ok x.report.retryPlan, x.store)) ∧
        (∀ o ∈ x.outstanding, o.user ∈ x.store.holders role ↔ o.user ∈ s.holders role) ∧
        (x.report.status = .succeeded → ∀ u : UserId, u ∈ x.store.holders role ↔ u ∈ desired)) ∧
      trail.Pairwise (Follows role) := by
  intro s
  have hs : s.Sound := sound_after acts
  have hfirst := agrees_carriedOut hs hstored desired fun o _ => Iff.rfl
  obtain ⟨ys, htrail, hlength, hall, hpairs⟩ := hfirst.trail hspared
  refine ⟨_, ?_, congrArg (· + 1) hlength, fun x hx => ?_, hpairs⟩
  · rw [saved_eq hs hstored]
    exact htrail
  · have hx := hall x hx
    refine ⟨fun m' limits' => ?_, hx.unmoved, fun hstatus => ?_⟩
    · rw [hx.retryPlan_eq]
      exact run_planMembers hx.sound hx.stored m' limits' desired
    · have hnone : x.outstanding = [] :=
        List.map_eq_nil_iff.mpr (x.report.status_eq_succeeded_iff.mp hstatus)
      exact plan_operations_eq_nil_iff.mp (hx.outstanding_eq ▸ hnone)

/-- Everything fails at first; the failures are cleared, and the retry has the same to do. -/
theorem retry_agrees_unlucky :
    ∃ trail, ((empty.after unlucky).saved someMoment {} ⟨⟨7, by decide⟩⟩ [⟨⟨1, by decide⟩⟩]).bind
        (·.trail [⟨[.clearFailures], someMoment, {}⟩]) = some trail ∧
      trail.length = 2 ∧ trail.Pairwise (Follows ⟨⟨7, by decide⟩⟩) := by
  have hspared : ∀ r ∈ [(⟨[.clearFailures], someMoment, {}⟩ : Round)],
      ∀ a ∈ r.between, a.Spares ⟨⟨7, by decide⟩⟩ := by
    intro r hr a ha
    rw [List.mem_singleton.mp hr] at ha
    rw [List.mem_singleton.mp ha]
    trivial
  obtain ⟨trail, htrail, hlength, -, hpairs⟩ :=
    retry_agrees unlucky someMoment {} ⟨⟨7, by decide⟩⟩ [⟨⟨1, by decide⟩⟩] _ (by decide) hspared
  exact ⟨trail, htrail, hlength, hpairs⟩

end Rolebook.Store
