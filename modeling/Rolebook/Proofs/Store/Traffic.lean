import Rolebook.Administrator.Members
import Rolebook.Proofs.Store.Batch
import Rolebook.Proofs.Traffic

/-!
# Calls that come in between each other

A call to the store is a routine, and other calls may take their steps between two of its own.
`Request` names the calls that matter to a role's members: those that change who holds a role, the
deletion of a role, and whole saves. In a save the operations are calls of their own, which mingle
with each other as they please and of which any may be given up on the way (`Course`). No course
holds them to a limit: what is shown for every course holds for the courses within limits. The batch
that the gateway carries out is the one in which nothing comes in between (`mingling_undisturbed`).

A deletion may be seen half done here, by a call that looks for the role between its two steps.
Where it keeps the roles to itself until its end, that cannot be, and there are only fewer
interleavings.

What a call does in its next step depends on where it stands. `Gives` says what a call that changes
members can still do: it adds no assignments but those it was made for, and only of a role that was
stored when the call took some step before. Nothing makes sure that the role is stored still.
`Stage` adds a deletion's two steps, and `Stage.step` says once what the next step of any call can
be.
-/

namespace Rolebook.Store

variable {α β ε : Type}

/-! ## Calls as routines -/

/-- How the calls of a batch go: the order of their steps, and after how many steps the call for an
operation is given up. -/
structure Course where
  order : List Nat
  patience : Operation → Nat

/-- One change to a role's members, given up on the way if it takes too many steps. -/
def changeWithin (course : Course) (l : Limits) (id : RoleId) (o : Operation) :
    Routine Store Outcome := do
  let result ← (change id o).run.cutShort (.error (.overdue o id l.timeout)) (course.patience o)
  return ⟨o, result⟩

/-- A batch of changes that mingle. -/
def changeTogether (course : Course) (l : Limits) (id : RoleId) (os : List Operation) :
    Routine Store (List Outcome) :=
  .together course.order (os.map (changeWithin course l id))

/-- The calls to the store as routines, where every batch takes the same course. -/
def mingling (m : Moment) (course : Course) : Gateway (Routine Store) :=
  { routines m.fresh m.now with changeAll := changeTogether course }

/-- A call that changes who holds a role, deletes a role, or saves a role's members. -/
inductive Request where
  | change (id : RoleId) (o : Operation)
  | delete (id : RoleId)
  | save (id : RoleId) (desired : List UserId) (limits : Limits) (course : Course)

/-- What a request comes to. -/
inductive Reply where
  | called (result : Except Fault Unit)
  | saved (result : Except BatchFault Saved)

/-- A request as a routine. -/
def Request.routine (m : Moment) : Request → Routine Store Reply
  | .change id o => Reply.called <$> (Store.change id o).run
  | .delete id => Reply.called <$> (deleteRole id).run
  | .save id desired limits course =>
    Reply.saved <$> (Administrator.saveMembers ⟨mingling m course, limits⟩ id desired).run

/-- The assignments that a request is made for. -/
def Request.Gives : Request → Assignment → Prop
  | .change id o, a => a.role = id ∧ o = .assign a.user
  | .delete _, _ => False
  | .save id desired .., a => a.role = id ∧ a.user ∈ desired

/-! ## Batches in which nothing comes in between -/

/-- A call that is done within so many steps after a look is done within one more with it. -/
theorem cutShort_look_bind (f : Store → Except Fault α) (k : α → Call β) (result : Except Fault β)
    (n : Nat) (h : ∀ a, (k a).run.cutShort result n = (k a).run) :
    (look f >>= k).run.cutShort result (n + 1) = (look f >>= k).run := by
  refine congrArg (Routine.step _) (funext fun s => ?_)
  show ((Routine.done (f s)).andThen _).cutShort result n = (Routine.done (f s)).andThen _
  cases f s with
  | ok a => exact h a
  | error fault => cases n <;> rfl

/-- A change takes no more than four steps. -/
theorem cutShort_change (id : RoleId) (o : Operation) (result : Except Fault Unit) :
    (change id o).run.cutShort result 4 = (change id o).run := by
  rw [change, checkChange, bind_assoc]
  refine cutShort_look_bind _ _ result 3 fun r => ?_
  refine cutShort_look_bind _ _ result 2 fun _ => ?_
  cases o with
  | assign u => exact cutShort_look_bind _ _ result 1 fun _ => rfl
  | unassign u => rfl

/-- When no call is given up and none comes in between, a batch is the one of the gateway. -/
theorem mingling_undisturbed (m : Moment) :
    mingling m ⟨[], fun _ => 4⟩ = routines m.fresh m.now := by
  have hbatch : changeTogether ⟨[], fun _ => 4⟩ = fun _ => changeAll := by
    funext l id os
    show (os.map (changeWithin _ l id)).mapM (fun r => r) = os.mapM _
    rw [List.mapM_map]
    refine congrArg (os.mapM ·) (funext fun o => ?_)
    show changeWithin _ l id o = _
    rw [changeWithin, cutShort_change]
  rw [mingling, hbatch]
  rfl

/-! ## What a call can still give -/

/-- What is left of a call that changes no roles and no users, and adds no assignments but given
ones of roles it has found: of those that were stored when it took a step. -/
inductive Gives (given : Assignment → Prop) : (RoleId → Prop) → Routine Store α → Prop
  | done {found : RoleId → Prop} (a : α) : Gives given found (.done a)
  | step {found : RoleId → Prop} {update : Store → Store} {next : Store → Routine Store α}
      (roles : ∀ s, (update s).roles = s.roles)
      (users : ∀ s, (update s).users = s.users)
      (added : ∀ s, ∀ a ∈ (update s).assignments, a ∈ s.assignments ∨ (given a ∧ found a.role))
      (rest : ∀ s, Gives given (fun id => found id ∨ s.roles.contains id = true) (next s)) :
      Gives given found (.step update next)

variable {given : Assignment → Prop} {found : RoleId → Prop}

/-- What was found stays found. -/
theorem Gives.mono {found' : RoleId → Prop} {r : Routine Store α} (h : Gives given found r)
    (hf : ∀ id, found id → found' id) : Gives given found' r := by
  induction h generalizing found' with
  | done a => exact .done a
  | step roles users added _ ih =>
    refine .step roles users (fun s a ha => ?_) fun s => ih s fun id => Or.imp_left (hf id)
    exact (added s a ha).imp_right fun ⟨hg, hfound⟩ => ⟨hg, hf _ hfound⟩

/-- What two routines give is what one after the other gives. -/
theorem Gives.andThen {r : Routine Store α} {k : α → Routine Store β} (h : Gives given found r)
    (hk : ∀ a, Gives given found (k a)) : Gives given found (r.andThen k) := by
  induction h with
  | done a => exact hk a
  | step roles users added _ ih =>
    exact .step roles users added fun s => ih s fun a => (hk a).mono fun _ => Or.inl

/-- A call and then another, which is not made if the first fails. -/
theorem Gives.attempt {x : ExceptT ε (Routine Store) α} {k : α → ExceptT ε (Routine Store) β}
    (h : Gives given found x.run) (hk : ∀ a, Gives given found (k a).run) :
    Gives given found (x >>= k).run :=
  h.andThen fun
    | .ok a => hk a
    | .error fault => .done (Except.error fault)

theorem Gives.lift {r : Routine Store α} (h : Gives given found r) :
    Gives given found (ExceptT.lift r : ExceptT ε (Routine Store) α).run :=
  h.andThen fun _ => .done _

theorem gives_liftExcept (result : Except ε α) :
    Gives given found (liftExcept result : ExceptT ε (Routine Store) α).run := by
  cases result <;> exact .done _

/-- What comes after a look has found the roles that were stored at the time. -/
theorem gives_look_bind {f : Store → Except Fault α} {k : α → Call β}
    (hk : ∀ s a, f s = .ok a →
      Gives given (fun id => found id ∨ s.roles.contains id = true) (k a).run) :
    Gives given found (look f >>= k).run := by
  refine .step (fun _ => rfl) (fun _ => rfl) (fun _ _ ha => .inl ha) fun s => ?_
  show Gives given _ (((Routine.done (f s)).andThen _ : Routine Store (Except Fault β)))
  cases h : f s with
  | ok a => exact hk s a h
  | error fault => exact .done (Except.error fault)

theorem gives_look (f : Store → Except Fault α) : Gives given found (look f).run :=
  .step (fun _ => rfl) (fun _ => rfl) (fun _ _ ha => .inl ha) fun _ => .done _

/-- What is found is stored. -/
theorem contains_of_role {s : Store} {id : RoleId} {r : Role} (h : s.role id = .ok r) :
    s.roles.contains id = true :=
  Option.isSome_of_eq_some (find?_of_role h)

/-- A change adds an assignment of a role that it has found. -/
theorem gives_applyChange {id : RoleId} {o : Operation} (hid : found id)
    (h : ∀ u, o = .assign u → given ⟨u, id⟩) :
    Gives given found (alter fun s => .ok ((), s.applyChange id o)).run := by
  refine .step (fun s => ?_) (fun s => ?_) (fun s a ha => ?_) fun s => .done _
  · exact roles_applyChange s id o
  · exact users_applyChange s id o
  · cases o with
    | assign u =>
      rcases SortedSet.mem_insert.mp ha with rfl | ha
      · exact .inr ⟨h u rfl, hid⟩
      · exact .inl ha
    | unassign u => exact .inl (SortedSet.mem_erase.mp ha).1

/-- A membership call gives its own user the role, and only after it has found the role. -/
theorem gives_change {id : RoleId} {o : Operation} (h : ∀ u, o = .assign u → given ⟨u, id⟩) :
    Gives given found (change id o).run := by
  rw [change, checkChange, bind_assoc]
  -- the first look finds the role, and nothing after it looks for the role again
  refine gives_look_bind fun s r hr => ?_
  have hid : s.roles.contains id = true := contains_of_role hr
  refine (gives_look _).attempt fun _ => ?_
  cases o with
  | assign u => exact (gives_look _).attempt fun _ => gives_applyChange (.inr hid) h
  | unassign u => exact gives_applyChange (.inr hid) h

/-- A call that is cut short gives no more than the whole call. -/
theorem Gives.cutShort {r : Routine Store α} (h : Gives given found r) (a : α) (n : Nat) :
    Gives given found (r.cutShort a n) := by
  induction h generalizing n with
  | done b => cases n <;> exact .done b
  | step roles users added _ ih =>
    cases n with
    | zero => exact .done a
    | succ n => exact .step roles users added fun s => ih s n

theorem gives_mapM {rs : List (Routine Store α)} (h : ∀ r ∈ rs, Gives given found r) :
    Gives given found (rs.mapM fun r => r) := by
  induction rs with
  | nil => exact .done []
  | cons r rs ih =>
    rw [List.mapM_cons]
    refine (h r (List.mem_cons_self ..)).andThen fun a => ?_
    exact (ih fun r' hr' => h r' (List.mem_cons_of_mem _ hr')).andThen fun as => .done (a :: as)

/-- Routines that take turns give what each of them gives. -/
theorem gives_together {order : List Nat} {rs : List (Routine Store α)}
    (h : ∀ r ∈ rs, Gives given found r) : Gives given found (.together order rs) := by
  induction order generalizing rs found with
  | nil => exact gives_mapM h
  | cons i order ih =>
    unfold Routine.together
    split
    next update next hr =>
      have hstep := h _ (List.mem_of_getElem? hr)
      cases hstep with
      | step roles users added rest =>
        refine .step roles users added fun s => ih fun r hr => ?_
        rcases List.mem_or_eq_of_mem_set hr with hr | rfl
        · exact (h r hr).mono fun _ => Or.inl
        · exact rest s
    next => exact ih h

/-! ## What a save can still give -/

/-- A save reads members and plans with what it has read; nothing comes in between. -/
theorem plan_of_memberIds (a : Administrator (Routine Store)) (id : RoleId)
    (desired : List UserId) :
    ((a.planMembers id desired).adapt BatchFault.call).run
      = (a.memberIds id).run.andThen fun
        | .ok current => .done (.ok (.compute id current.toList desired))
        | .error fault => .done (.error (.call fault)) := by
  show Except.mapError BatchFault.call <$> ((a.memberIds id).run >>= _) = _
  rw [map_bind]
  refine congrArg ((a.memberIds id).run.andThen ·) (funext fun result => ?_)
  cases result <;> rfl

theorem gives_changeWithin (course : Course) (l : Limits) {id : RoleId} {o : Operation}
    (h : ∀ u, o = .assign u → given ⟨u, id⟩) : Gives given found (changeWithin course l id o) :=
  ((gives_change h).cutShort _ _).andThen fun _ => .done _

/-- A plan gives its role to those who are to join. -/
theorem gives_execute (m : Moment) (course : Course) (limits : Limits) {plan : Plan}
    (h : ∀ u ∈ plan.toAdd, given ⟨u, plan.role⟩) :
    Gives given found (Administrator.execute ⟨mingling m course, limits⟩ plan) := by
  unfold Administrator.execute
  split
  · exact .done _
  · refine (gives_together fun r hr => ?_).andThen fun _ => .done _
    obtain ⟨o, ho, rfl⟩ := List.mem_map.mp hr
    refine gives_changeWithin course _ fun u hu => h u ?_
    exact Plan.assign_mem_operations.mp (hu ▸ ho)

theorem gives_memberIds (m : Moment) (course : Course) (limits : Limits) (id : RoleId) :
    Gives given found (Administrator.memberIds ⟨mingling m course, limits⟩ id).run := by
  refine Gives.attempt ?_ fun _ => .done _
  exact (gives_look _).attempt fun _ => gives_look _

/-- Saving members gives the role to those who are wanted, and to no others. -/
theorem gives_saveMembers (m : Moment) (course : Course) (limits : Limits) {id : RoleId}
    {desired : List UserId} (h : ∀ u ∈ desired, given ⟨u, id⟩) :
    Gives given found (Administrator.saveMembers ⟨mingling m course, limits⟩ id desired).run := by
  show Gives given found (Routine.andThen (ExceptT.run (ExceptT.adapt _ _)) _)
  rw [plan_of_memberIds, Routine.andThen_assoc]
  refine (gives_memberIds m course limits id).andThen fun
    | .ok current => ?_
    | .error fault => .done _
  -- only users who are wanted are given the role
  have hadd : ∀ u ∈ (Plan.compute id current.toList desired).toAdd, given ⟨u, id⟩ := by
    intro u hu
    exact h u (SortedSet.mem_ofList.mp (SortedSet.mem_diff.mp hu).1)
  refine Gives.attempt ?_ fun _ => ?_
  · exact (gives_execute m course limits hadd).lift.attempt fun _ => gives_liftExcept _
  · exact (gives_memberIds m course limits id).lift.attempt fun _ => .done _

/-! ## Where a call stands -/

/-- What is left of a deletion once the role is gone: its assignments go after it. -/
def dropping (id : RoleId) : Routine Store Reply :=
  .step (fun s => s.dropAssignments id) fun _ => .done (.called (.ok ()))

/-- A deletion, step by step: it is refused, or takes the role away and goes on to its
assignments. -/
def deleting (id : RoleId) : Routine Store Reply :=
  .step
    (fun s => match s.mutableRole id with
      | .ok _ => s.dropRole id
      | .error _ => s)
    (fun s => match s.mutableRole id with
      | .ok _ => dropping id
      | .error fault => .done (.called (.error fault)))

/-- A deletion that is requested looks for the role before it is deleted. -/
theorem routine_delete (m : Moment) (id : RoleId) : (Request.delete id).routine m = deleting id := by
  have hdrop : (fun s : Store => do
      let r ← s.role id
      r.ensureMutable
      return ((), s.dropRole id)) = fun s => (s.mutableRole id).map fun _ => ((), s.dropRole id) := by
    funext s
    rw [mutableRole]
    simp only [bind, Except.bind]
    cases s.role id with
    | error fault => rfl
    | ok r =>
      dsimp only
      cases r.ensureMutable <;> rfl
  show Reply.called <$> (alter _ >>= fun _ => alter _).run = _
  rw [hdrop]
  refine congr (congrArg Routine.step (funext fun s => ?_)) (funext fun s => ?_)
  · dsimp only
    cases s.mutableRole id <;> rfl
  · dsimp only
    cases s.mutableRole id <;> rfl

theorem gives_dropping (id : RoleId) : Gives given found (dropping id) :=
  .step (fun _ => rfl) (fun _ => rfl) (fun _ _ ha => .inl (mem_dropAssignments.mp ha).1)
    fun _ => .done _

/-- Where a call stands: it is a deletion that has not begun, or it gives no more than it may. -/
inductive Stage : Request → (RoleId → Prop) → Routine Store Reply → Prop
  | giving {q : Request} {found : RoleId → Prop} {r : Routine Store Reply}
      (h : Gives q.Gives found r) : Stage q found r
  | deleting (id : RoleId) (found : RoleId → Prop) : Stage (.delete id) found (deleting id)

/-- At its beginning, a request has done nothing yet. -/
theorem stage_routine (m : Moment) (q : Request) (found : RoleId → Prop) :
    Stage q found (q.routine m) := by
  cases q with
  | change id o => exact .giving ((gives_change fun u hu => ⟨rfl, hu⟩).andThen fun _ => .done _)
  | delete id =>
    rw [routine_delete]
    exact .deleting id found
  | save id desired limits course =>
    exact .giving ((gives_saveMembers m course limits fun u hu => ⟨rfl, hu⟩).andThen
      fun _ => .done _)

/-- What the next step of a call does. -/
inductive Move (q : Request) (found : RoleId → Prop) (s : Store) : Store → Routine Store Reply → Prop
  /-- Roles and users stay, and of a role that was found an assignment may be added. -/
  | stay {s' : Store} {r : Routine Store Reply}
      (roles : s'.roles = s.roles)
      (users : s'.users = s.users)
      (added : ∀ a ∈ s'.assignments, a ∈ s.assignments ∨ (q.Gives a ∧ found a.role))
      (rest : Stage q (fun id => found id ∨ s.roles.contains id = true) r) : Move q found s s' r
  /-- A role is taken away, and its assignments are to follow. -/
  | drop {id : RoleId} (asked : q = .delete id) : Move q found s (s.dropRole id) (dropping id)

/-- There is nothing else that a step can do. -/
theorem Stage.step {q : Request} {update : Store → Store} {next : Store → Routine Store Reply}
    (h : Stage q found (.step update next)) (s : Store) : Move q found s (update s) (next s) := by
  generalize hr : Routine.step update next = r at h
  cases h with
  | giving h =>
    subst hr
    cases h with
    | step roles users added rest => exact .stay (roles s) (users s) (added s) (.giving (rest s))
  | deleting id =>
    cases hr
    dsimp only
    cases s.mutableRole id with
    | ok r => exact .drop rfl
    | error fault => exact .stay rfl rfl (fun _ ha => .inl ha) (.giving (.done _))

end Rolebook.Store
