import Rolebook.Proofs.Store.Failure
import Rolebook.Proofs.Store.Names
import Rolebook.Proofs.Store.System
import Rolebook.Proofs.Traffic

/-!
# The step in which a call takes effect

A call to the store is a routine of several steps, between which other calls may take theirs. As far
as roles are concerned, only one of them matters: in it the call does at once what it would do as a
whole, on the roles as they are at that moment, and in all others it does nothing to them
(`Advance`, `Advance.effect`). What it has looked up before are permissions, and no call changes
those.

`Phase` says this of what is left of a call, whatever may happen between its steps, and
`phase_routine` shows it of every call. An update and a deletion look at the role in the very step
in which they change it. After that step nothing can fail, and until then nothing has been done, so
whether a call has taken effect decides how it answers.

Who holds a role does not matter here, and stores are compared without their assignments
(`Store.vacant`). A deletion can be seen half done between its two steps. Where it keeps the roles
to itself until its end, that cannot be, and there are only fewer interleavings.
-/

namespace Rolebook

/-! ## Routines whose steps all keep something -/

namespace Routine

variable {σ α β : Type} {R : σ → σ → Prop}

/-- Every step of a routine, in whatever state it is taken, leads to a related state. -/
inductive Keeps (R : σ → σ → Prop) : Routine σ α → Prop
  | done (a : α) : Keeps R (.done a)
  | step {update : σ → σ} {next : σ → Routine σ α} (kept : ∀ s, R s (update s))
      (rest : ∀ s, Keeps R (next s)) : Keeps R (.step update next)

/-- What two routines keep in each of their steps, they keep one after the other. -/
theorem Keeps.andThen {r : Routine σ α} {k : α → Routine σ β} (h : Keeps R r)
    (hk : ∀ a, Keeps R (k a)) : Keeps R (r.andThen k) := by
  induction h with
  | done a => exact hk a
  | step kept _ ih => exact .step kept ih

end Routine

/-- Whether a call can put a role in, change one or take one out. -/
def Gateway.Call.altersRoles : Gateway.Call → Bool
  | .createRole _ | .updateRole .. | .deleteRole _ => true
  | _ => false

namespace Store

variable {α β : Type}

/-! ## Steps that are not about roles -/

/-- The store in which nobody holds a role. -/
def vacant (s : Store) : Store := { s with assignments := .empty }

/-- Nothing but assignments differs. -/
def RolesKept (s t : Store) : Prop := t.vacant = s.vacant

theorem RolesKept.roles_eq {s t : Store} (h : RolesKept s t) : t.roles = s.roles :=
  congrArg (·.roles) h

theorem keeps_look (f : Store → Except Fault α) : (look f).run.Keeps RolesKept :=
  .step (fun _ => rfl) fun _ => .done _

/-- A call that stops at a fault keeps what its steps up to there keep. -/
theorem keeps_attempt {x : Call α} {k : α → Call β} (h : x.run.Keeps RolesKept)
    (hk : ∀ a, (k a).run.Keeps RolesKept) : (x >>= k).run.Keeps RolesKept := by
  refine h.andThen fun result => ?_
  cases result with
  | ok a => exact hk a
  | error fault => exact .done (Except.error fault)

theorem keeps_pure (a : α) : (pure a : Call α).run.Keeps RolesKept := .done (Except.ok a)

theorem keeps_withCount (r : Role) : (withCount r).run.Keeps RolesKept := by
  refine keeps_attempt (keeps_look _) fun count => ?_
  rw [Role.ofInput_toInput]
  exact .done _

theorem keeps_mapM_withCount (rs : List Role) : (rs.mapM withCount).run.Keeps RolesKept := by
  induction rs with
  | nil => exact keeps_pure []
  | cons r rs ih =>
    rw [List.mapM_cons]
    exact keeps_attempt (keeps_withCount r) fun _ => keeps_attempt ih fun _ => keeps_pure _

/-- A membership call leaves the roles alone. -/
theorem keeps_change (id : RoleId) (o : Operation) : (change id o).run.Keeps RolesKept := by
  have happly : (alter fun s => .ok ((), s.applyChange id o)).run.Keeps RolesKept := by
    refine .step (fun s => ?_) fun _ => .done _
    cases o <;> rfl
  refine keeps_attempt (keeps_attempt (keeps_look _) fun _ => keeps_look _) fun _ => ?_
  refine keeps_attempt ?_ fun _ => happly
  cases o with
  | assign u => exact keeps_look _
  | unassign u => exact keeps_pure ()

theorem keeps_ended {x : Call α} (h : x.run.Keeps RolesKept) :
    (Administrator.ended x).run.Keeps RolesKept := keeps_attempt h fun _ => keeps_pure ()

/-- Permissions are looked up alike where they are the same. -/
theorem resolve_congr {s t : Store} (h : s.permissions = t.permissions)
    (ids : List PermissionId) : s.resolve ids = t.resolve ids := by
  unfold resolve
  rw [h]

/-! ## Calls under way -/

/-- A call as it is made, with the id that a new role gets and the time. -/
structure Sent where
  moment : Moment
  call : Gateway.Call

/-- The call as a routine, which ends in the fault that the call fails with, if it fails. -/
def Sent.routine (q : Sent) : Routine Store (Except Fault Unit) :=
  (q.call.perform (routines q.moment.fresh q.moment.now)).run

/-- A call that alters no roles leaves them alone in all of its steps. -/
theorem keeps_routine {q : Sent} (h : q.call.altersRoles = false) :
    q.routine.Keeps RolesKept := by
  obtain ⟨m, c⟩ := q
  cases c with
  | createRole | updateRole | deleteRole => cases h
  | listRoles =>
    exact keeps_ended (keeps_attempt (keeps_look _) fun rs => keeps_mapM_withCount rs)
  | getRole id => exact keeps_ended (keeps_attempt (keeps_look _) fun r => keeps_withCount r)
  | listPermissions => exact keeps_ended (keeps_look _)
  | listUsers => exact keeps_ended (keeps_look _)
  | members id => exact keeps_ended (keeps_attempt (keeps_look _) fun _ => keeps_look _)
  | change id o => exact keeps_change id o

/-- What one step of a call does, and whether the call has taken effect before it and after. -/
inductive Advance (q : Sent) (s : Store) : Bool → Bool → Store → Prop
  /-- Nothing is done. -/
  | idle (taken : Bool) : Advance q s taken taken s
  /-- Something is done to assignments; an update does not come to that. -/
  | aside {taken : Bool} {s' : Store} (kept : RolesKept s s')
      (other : ∀ id e, q.call ≠ .updateRole id e) : Advance q s taken taken s'
  /-- A role is put in. -/
  | create {d : RoleDraft} {permissions : List Permission} {r : Role}
      (asked : q.call = .createRole d)
      (resolved : s.resolve d.permissions = .ok permissions)
      (made : drafted q.moment.fresh q.moment.now d permissions = .ok r)
      (free : s.ensureUniqueName r.name none = .ok ()) : Advance q s false true (s.putRole r)
  /-- A role that is there is put in again, edited. -/
  | update {id : RoleId} {e : RoleEdit} {permissions : List Permission} {old r : Role}
      (asked : q.call = .updateRole id e)
      (resolved : s.resolve e.permissions = .ok permissions)
      (found : s.role id = .ok old)
      (custom : old.isSystem = false)
      (made : edited old q.moment.now e permissions = .ok r) : Advance q s false true (s.putRole r)
  /-- A role is taken out. -/
  | delete {id : RoleId} {r : Role}
      (asked : q.call = .deleteRole id)
      (found : s.role id = .ok r)
      (custom : r.isSystem = false) : Advance q s false true (s.dropRole id)

variable {q : Sent} {s s' : Store} {taken taken' : Bool}

/-- Assignments aside, a step does nothing, or all that the call would do by itself. -/
theorem Advance.effect (h : Advance q s taken taken' s') :
    RolesKept s s' ∨ (taken = false ∧ Effect q.moment s.vacant q.call s'.vacant) := by
  cases h with
  | idle => exact .inl rfl
  | aside kept => exact .inl kept
  | create asked resolved made free =>
    rw [asked]
    exact .inr ⟨rfl, .create resolved made free⟩
  | update asked resolved found custom made =>
    rw [asked]
    exact .inr ⟨rfl, .update resolved found custom made⟩
  | delete asked found custom =>
    rw [asked]
    exact .inr ⟨rfl, .delete found custom⟩

/-- No step of a call touches the permissions. -/
theorem Advance.permissions_eq (h : Advance q s taken taken' s') :
    s'.permissions = s.permissions := by
  cases h with
  | aside kept => exact congrArg (·.permissions) kept
  | idle | create | update | delete => rfl

/-! ## What is left of a call -/

/-- What is left of a call, and whether the call has taken effect, as long as permissions stay what
they were. -/
inductive Phase (permissions : SortedMap PermissionId Permission) (q : Sent) :
    Bool → Routine Store (Except Fault Unit) → Prop
  | done {taken : Bool} {result : Except Fault Unit}
      (answer : q.call.altersRoles = true → (taken = true ↔ result = .ok ())) :
      Phase permissions q taken (.done result)
  | step {taken : Bool} {update : Store → Store} {next : Store → Routine Store (Except Fault Unit)}
      (taken' : Store → Bool)
      (move : ∀ s, s.permissions = permissions → Advance q s taken (taken' s) (update s))
      (rest : ∀ s, s.permissions = permissions → Phase permissions q (taken' s) (next s)) :
      Phase permissions q taken (.step update next)

variable {permissions : SortedMap PermissionId Permission}

/-- A call that has failed has taken no effect. -/
theorem phase_refused (q : Sent) (fault : Fault) :
    Phase permissions q false (.done (.error fault)) :=
  .done fun _ => ⟨nofun, nofun⟩

/-- A call that has succeeded has taken effect. -/
theorem phase_finished (q : Sent) : Phase permissions q true (.done (.ok ())) :=
  .done fun _ => ⟨fun _ => rfl, fun _ => rfl⟩

/-- A call that is not about roles does nothing to them. -/
theorem phase_of_keeps (hq : q.call.altersRoles = false) {r : Routine Store (Except Fault Unit)}
    (h : r.Keeps RolesKept) : Phase permissions q false r := by
  have hother : ∀ id e, q.call ≠ .updateRole id e := by
    intro id e hupdate
    rw [hupdate] at hq
    cases hq
  induction h with
  | done result =>
    refine .done fun halters => ?_
    rw [hq] at halters
    cases halters
  | step kept _ ih =>
    exact .step (fun _ => false) (fun s _ => .aside (kept s) hother) fun s _ => ih s

/-- A call that has only looked so far has not taken effect. -/
theorem phase_look_bind {f : Store → Except Fault α} {k : α → Call Unit}
    (h : ∀ s, s.permissions = permissions → ∀ a, f s = .ok a →
      Phase permissions q false (k a).run) : Phase permissions q false (look f >>= k).run := by
  refine .step (fun _ => false) (fun s _ => .idle false) fun s hs => ?_
  show Phase permissions q false (Routine.andThen (.done (f s)) _)
  cases hf : f s with
  | ok a => exact h s hs a hf
  | error fault => exact phase_refused q fault

/-- What is worked out without the store brings a call no nearer to its effect. -/
theorem phase_liftExcept_bind {result : Except Fault α} {k : α → Call Unit}
    (h : ∀ a, result = .ok a → Phase permissions q false (k a).run) :
    Phase permissions q false (liftExcept result >>= k).run := by
  cases result with
  | ok a => exact h a rfl
  | error fault => exact phase_refused q fault

/-- A call that now takes effect, or fails, and after that cannot fail any more. -/
theorem phase_alter_bind {f : Store → Except Fault (α × Store)} {k : α → Call Unit}
    (hmove : ∀ s, s.permissions = permissions → ∀ a s', f s = .ok (a, s') →
      Advance q s false true s')
    (hrest : ∀ a, Phase permissions q true (k a).run) :
    Phase permissions q false (alter f >>= k).run := by
  refine .step (fun s => (f s).isOk) (fun s hs => ?_) fun s _ => ?_
  · dsimp only
    cases hf : f s with
    | ok answer => exact hmove s hs answer.1 answer.2 hf
    | error fault => exact .idle false
  · dsimp only
    cases f s with
    | ok answer => exact hrest answer.1
    | error fault => exact phase_refused q fault

/-- A creation takes effect in the step in which it looks whether the name is free. -/
theorem phase_createRole (m : Moment) (d : RoleDraft) :
    Phase permissions ⟨m, .createRole d⟩ false (Sent.routine ⟨m, .createRole d⟩) := by
  show Phase permissions _ false (createRole m.fresh m.now d >>= fun _ => pure ()).run
  rw [createRole, bind_assoc]
  refine phase_look_bind fun s hs granted hgranted => ?_
  rw [bind_assoc]
  refine phase_liftExcept_bind fun r hmade => ?_
  refine phase_alter_bind (fun t ht a t' hput => ?_) fun _ => phase_finished _
  -- nobody has changed permissions since they were looked up
  have hresolved : t.resolve d.permissions = .ok granted := by
    rw [resolve_congr (ht.trans hs.symm), hgranted]
  cases hfree : t.ensureUniqueName r.name none with
  | error fault => rw [hfree] at hput; cases hput
  | ok u =>
    rw [hfree] at hput
    cases hput
    exact .create rfl hresolved hmade hfree

/-- An update takes effect in the step in which it finds the role. -/
theorem phase_updateRole (m : Moment) (id : RoleId) (e : RoleEdit) :
    Phase permissions ⟨m, .updateRole id e⟩ false (Sent.routine ⟨m, .updateRole id e⟩) := by
  show Phase permissions _ false (updateRole m.now id e >>= fun _ => pure ()).run
  rw [updateRole, bind_assoc]
  refine phase_look_bind fun s hs granted hgranted => ?_
  rw [bind_assoc]
  refine phase_alter_bind (fun t ht a t' hput => ?_) fun r => ?_
  · have hresolved : t.resolve e.permissions = .ok granted := by
      rw [resolve_congr (ht.trans hs.symm), hgranted]
    obtain ⟨old, hfound, hput⟩ := bind_eq_ok_iff.mp hput
    obtain ⟨_, hmutable, hput⟩ := bind_eq_ok_iff.mp hput
    obtain ⟨r, hmade, hput⟩ := bind_eq_ok_iff.mp hput
    cases hput
    exact .update rfl hresolved hfound (custom_of_ensureMutable hmutable) hmade
  · -- what is left is to count the members, and a role can always be made again
    refine .step (fun _ => true) (fun t _ => .idle true) fun t _ => ?_
    show Phase permissions _ true (Routine.andThen (ExceptT.run (liftExcept _)) _)
    rw [Role.ofInput_toInput]
    exact phase_finished _

/-- A deletion takes effect in the step in which it finds the role; the assignments go after that.
-/
theorem phase_deleteRole (m : Moment) (id : RoleId) :
    Phase permissions ⟨m, .deleteRole id⟩ false (Sent.routine ⟨m, .deleteRole id⟩) := by
  show Phase permissions _ false (deleteRole id).run
  rw [deleteRole]
  refine phase_alter_bind (fun t _ a t' hdrop => ?_) fun _ => ?_
  · obtain ⟨r, hfound, hdrop⟩ := bind_eq_ok_iff.mp hdrop
    obtain ⟨_, hmutable, hdrop⟩ := bind_eq_ok_iff.mp hdrop
    cases hdrop
    exact .delete rfl hfound (custom_of_ensureMutable hmutable)
  · have hother : ∀ id' e, Gateway.Call.deleteRole id ≠ .updateRole id' e := by
      intro id' e h
      cases h
    exact .step (fun _ => true) (fun t _ => .aside rfl hother) fun t _ => phase_finished _

/-- Every call takes effect in one step at most, and answers that it did just if it did. -/
theorem phase_routine (permissions : SortedMap PermissionId Permission) (q : Sent) :
    Phase permissions q false q.routine := by
  cases halters : q.call.altersRoles with
  | false => exact phase_of_keeps halters (keeps_routine halters)
  | true =>
    obtain ⟨m, c⟩ := q
    cases c with
    | createRole d => exact phase_createRole m d
    | updateRole id e => exact phase_updateRole m id e
    | deleteRole id => exact phase_deleteRole m id
    | listRoles | getRole | listPermissions | listUsers | members | change => cases halters

end Store

end Rolebook
