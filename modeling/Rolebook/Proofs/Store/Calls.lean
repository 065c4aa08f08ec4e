import Rolebook.Proofs.Fallible
import Rolebook.Proofs.Role.Normal
import Rolebook.Store.Calls

/-!
# What the calls to the store do

`exec` runs a call from start to end with nothing coming in between. Each kind of call gets one
equation for its run, so that nothing later has to look into the steps it is made of:

* `exec_bind`, `exec_look`, `exec_alter`: calls put together from steps;
* `exec_listMembers`, `exec_change`: reading members and changing them. `refusal?` says why a change
  is refused, in terms of the store alone;
* `exec_getRole`, `exec_listRoles`, `exec_createRole`, `exec_updateRole`, `exec_deleteRole`: reading
  roles and changing them. `created`, `revised` and `mutableRole` say what comes of a change or why
  nothing does;
* `Effect`: what a call of any kind can leave, one constructor for each way of changing anything.
  `effect_of_call` says that there is no other.
-/

namespace Rolebook

/-! ## Routines as a lawful monad -/

namespace Routine

variable {σ α β : Type}

/-- A routine that only hands on its value adds nothing. -/
theorem andThen_done : ∀ r : Routine σ α, r.andThen done = r
  | done _ => rfl
  | step update next => congrArg (step update) (funext fun s => andThen_done (next s))

/-- It makes no difference how routines that come one after the other are put together. -/
theorem andThen_assoc {γ : Type} (k : α → Routine σ β) (l : β → Routine σ γ) :
    ∀ r : Routine σ α, (r.andThen k).andThen l = r.andThen fun a => (k a).andThen l
  | done _ => rfl
  | step update next =>
    congrArg (step update) (funext fun s => andThen_assoc k l (next s))

instance : LawfulMonad (Routine σ) :=
  LawfulMonad.mk' (Routine σ) andThen_done (fun _ _ => rfl) fun r k l => andThen_assoc k l r

end Routine

namespace Store

variable {α β : Type}

/-! ## Calls made of steps -/

/-- What a call answers and leaves when it runs undisturbed. -/
def exec (x : Call α) (s : Store) : Except Fault α × Store := x.run.run s

theorem exec_look (f : Store → Except Fault α) (s : Store) : exec (look f) s = (f s, s) := rfl

theorem exec_alter (f : Store → Except Fault (α × Store)) (s : Store) :
    exec (alter f) s =
      match f s with
      | .ok (a, s') => (.ok a, s')
      | .error fault => (.error fault, s) := rfl

theorem exec_liftExcept (r : Except Fault α) (s : Store) :
    exec (liftExcept r) s = (r, s) := by
  cases r <;> rfl

/-- A call and then another: the second runs on what the first leaves, unless the first fails. -/
theorem exec_bind (x : Call α) (k : α → Call β) (s : Store) :
    exec (x >>= k) s =
      match exec x s with
      | (.ok a, s') => exec (k a) s'
      | (.error fault, s') => (.error fault, s') := by
  show ((x >>= k).run).run s = _
  rw [ExceptT.run_bind, Routine.run_bind]
  cases h : x.run.run s with
  | mk r s' =>
    rw [exec, h]
    cases r <;> rfl

theorem exec_look_bind (f : Store → Except Fault α) (k : α → Call β) (s : Store) :
    exec (look f >>= k) s =
      match f s with
      | .ok a => exec (k a) s
      | .error fault => (.error fault, s) := by
  rw [exec_bind, exec_look]
  cases f s <;> rfl

theorem exec_liftExcept_bind (r : Except Fault α) (k : α → Call β) (s : Store) :
    exec (liftExcept r >>= k) s =
      match r with
      | .ok a => exec (k a) s
      | .error fault => (.error fault, s) := by
  rw [exec_bind, exec_liftExcept]
  cases r <;> rfl

/-! ## Members -/

/-- Whether an operation on the members of a stored role fails: operations for its user are made to
fail, or it gives the role to a user who is not registered. -/
def fails (s : Store) (o : Operation) : Bool :=
  decide (o.user ∈ s.failing) ||
    match o with
    | .assign u => !s.users.contains u
    | .unassign _ => false

/-- Why an operation fails that does. -/
def faultOf (s : Store) (o : Operation) : Fault :=
  if o.user ∈ s.failing then .injected o.user else .noUser o.user

/-- Why a change to a role's members is refused, if it is. -/
def refusal? (s : Store) (id : RoleId) (o : Operation) : Option Fault :=
  if s.roles.contains id then if s.fails o then some (s.faultOf o) else none
  else some (.noRole id)

/-- A stored role is found. -/
theorem role_eq_ok {s : Store} {id : RoleId} (h : s.roles.contains id = true) :
    ∃ r, s.role id = .ok r := by
  obtain ⟨r, hr⟩ := Option.isSome_iff_exists.mp h
  exact ⟨r, by rw [role, hr]⟩

/-- A role that is not stored is not found. -/
theorem role_eq_error {s : Store} {id : RoleId} (h : s.roles.contains id = false) :
    s.role id = .error (.noRole id) := by
  have hn : s.roles.find? id = none := by simpa [SortedMap.contains] using h
  rw [role, hn]

/-- The members of a stored role are listed; one that is not stored has none, not even an empty
list. -/
theorem exec_listMembers (id : RoleId) (s : Store) :
    exec (listMembers id) s =
      if s.roles.contains id then (.ok (s.members id), s) else (.error (.noRole id), s) := by
  rw [listMembers, exec_look_bind]
  cases hc : s.roles.contains id with
  | true =>
    obtain ⟨r, hr⟩ := role_eq_ok hc
    rw [hr]
    rfl
  | false =>
    rw [role_eq_error hc]
    rfl

/-- A membership call asks for the role first, and then whether its user is to be failed. -/
theorem exec_checkChange (id : RoleId) (u : UserId) (s : Store) :
    exec (checkChange id u) s =
      if s.roles.contains id then
        if u ∈ s.failing then (.error (.injected u), s) else (.ok (), s)
      else (.error (.noRole id), s) := by
  rw [checkChange, exec_look_bind]
  cases hc : s.roles.contains id with
  | true =>
    obtain ⟨r, hr⟩ := role_eq_ok hc
    rw [hr]
    by_cases hu : u ∈ s.failing
    · simp [exec_look, hu]
    · simp [exec_look, hu]
  | false =>
    rw [role_eq_error hc]
    rfl

theorem exec_checkUser (o : Operation) (s : Store) :
    exec (checkUser o) s =
      match o with
      | .assign u => if s.users.contains u then (.ok (), s) else (.error (.noUser u), s)
      | .unassign _ => (.ok (), s) := by
  cases o with
  | assign u =>
    rw [checkUser, exec_look]
    cases hu : s.users.contains u <;> simp [hu]
  | unassign u => rfl

/-- A change is made as a whole or refused, and a refused one leaves the store as it was. -/
theorem exec_change (id : RoleId) (o : Operation) (s : Store) :
    exec (change id o) s =
      match s.refusal? id o with
      | some fault => (.error fault, s)
      | none => (.ok (), s.applyChange id o) := by
  rw [change, exec_bind, exec_checkChange, refusal?]
  cases hc : s.roles.contains id with
  | false => rfl
  | true =>
    by_cases hf : o.user ∈ s.failing
    · simp [fails, faultOf, hf]
    · cases o with
      | assign u =>
        have hu : u ∉ s.failing := hf
        cases hr : s.users.contains u with
        | true => simp [fails, hu, hr, Operation.user, exec_bind, exec_checkUser, exec_alter]
        | false => simp [fails, faultOf, hu, hr, Operation.user, exec_bind, exec_checkUser]
      | unassign u =>
        have hu : u ∉ s.failing := hf
        simp [fails, hu, Operation.user, exec_bind, exec_checkUser, exec_alter]

/-! ## Roles -/

/-- A role with the count of those who hold it now. -/
def counted (s : Store) (r : Role) : Role := { r with userCount := s.countMembers r.id }

/-- The role that a draft describes, once its permissions are known. -/
def drafted (fresh : RoleId) (now : Instant) (d : RoleDraft) (permissions : List Permission) :
    Except Fault Role :=
  Role.ofInput {
    id := fresh
    name := d.name
    displayName := d.displayName
    description := d.description
    permissions := permissions
    createdAt := some now }

/-- The role that a draft brings in, or why it brings in none. -/
def created (s : Store) (fresh : RoleId) (now : Instant) (d : RoleDraft) : Except Fault Role := do
  let permissions ← s.resolve d.permissions
  let r ← drafted fresh now d permissions
  s.ensureUniqueName r.name none
  return r

/-- The stored role with this id, unless it cannot be changed. -/
def mutableRole (s : Store) (id : RoleId) : Except Fault Role := do
  let r ← s.role id
  r.ensureMutable
  return r

/-- What an edit makes of a stored role, or why it makes nothing of it. -/
def revised (s : Store) (now : Instant) (id : RoleId) (e : RoleEdit) : Except Fault Role := do
  let permissions ← s.resolve e.permissions
  let r ← s.mutableRole id
  edited r now e permissions

/-- Only what is no system role may be changed. -/
theorem custom_of_ensureMutable {r : Role} {u : Unit} (h : r.ensureMutable = .ok u) :
    r.isSystem = false := by
  unfold Role.ensureMutable at h
  cases hs : r.isSystem with
  | false => rfl
  | true => rw [hs] at h; cases h

/-- A role that may be changed is stored and no system role. -/
theorem mutableRole_eq_ok {s : Store} {id : RoleId} {r : Role} (h : s.mutableRole id = .ok r) :
    s.role id = .ok r ∧ r.isSystem = false := by
  obtain ⟨r', hr, h⟩ := bind_eq_ok_iff.mp h
  obtain ⟨_, hm, h⟩ := bind_eq_ok_iff.mp h
  cases h
  exact ⟨hr, custom_of_ensureMutable hm⟩

theorem role_of_find? {s : Store} {id : RoleId} {r : Role} (h : s.roles.find? id = some r) :
    s.role id = .ok r := by
  rw [role, h]

theorem ensureMutable_of_custom {r : Role} (h : r.isSystem = false) : r.ensureMutable = .ok () := by
  rw [Role.ensureMutable, h]
  rfl

/-- A stored role that is no system role may be changed. -/
theorem mutableRole_of_custom {s : Store} {id : RoleId} {r : Role}
    (hr : s.roles.find? id = some r) (hc : r.isSystem = false) : s.mutableRole id = .ok r := by
  rw [mutableRole, role_of_find? hr]
  show (r.ensureMutable >>= fun _ => pure r) = _
  rw [ensureMutable_of_custom hc]
  rfl

/-- A role can be edited in any way: the name it keeps is not blank. -/
theorem exists_edited (r : Role) (now : Instant) (e : RoleEdit) (permissions : List Permission) :
    ∃ r', edited r now e permissions = .ok r' := ⟨_, Role.ofInput_of_name r.name rfl⟩

/-- A role keeps its id and its name when it is edited. -/
theorem id_name_of_edited {old r : Role} {now : Instant} {e : RoleEdit}
    {permissions : List Permission} (h : edited old now e permissions = .ok r) :
    r.id = old.id ∧ r.name = old.name := by
  rw [edited, Role.ofInput_of_name old.name rfl] at h
  cases h
  exact ⟨rfl, rfl⟩

/-- Counting the members of a role never fails: a role can always be made again. -/
theorem exec_withCount (r : Role) (s : Store) : exec (withCount r) s = (.ok (s.counted r), s) := by
  rw [withCount, exec_look_bind]
  show exec (liftExcept (Role.ofInput { r.toInput with userCount := s.countMembers r.id })) s = _
  rw [Role.ofInput_toInput, exec_liftExcept]
  rfl

/-- Undisturbed, all roles of a list are counted in one state. -/
theorem exec_mapM_withCount (rs : List Role) (s : Store) :
    exec (rs.mapM withCount) s = (.ok (rs.map s.counted), s) := by
  induction rs with
  | nil => rfl
  | cons r rs ih =>
    rw [List.mapM_cons, exec_bind, exec_withCount]
    show exec (rs.mapM withCount >>= fun rs' => pure (s.counted r :: rs')) s = _
    rw [exec_bind, ih]
    rfl

/-- All roles are listed, each with its count. -/
theorem exec_listRoles (s : Store) :
    exec listRoles s = (.ok (s.roles.values.map s.counted), s) := by
  rw [listRoles, exec_look_bind]
  exact exec_mapM_withCount _ s

theorem exec_getRole (id : RoleId) (s : Store) :
    exec (getRole id) s = ((s.role id).map s.counted, s) := by
  rw [getRole, exec_look_bind]
  cases s.role id with
  | error fault => rfl
  | ok r => exact exec_withCount r s

/-- To create a role is to put in what was drafted, or to fail and leave the store as it is. -/
theorem exec_createRole (fresh : RoleId) (now : Instant) (d : RoleDraft) (s : Store) :
    exec (createRole fresh now d) s =
      match s.created fresh now d with
      | .ok r => (.ok r, s.putRole r)
      | .error fault => (.error fault, s) := by
  rw [createRole, exec_look_bind, created]
  cases s.resolve d.permissions with
  | error fault => rfl
  | ok permissions =>
    show exec (liftExcept (drafted fresh now d permissions) >>= _) s = _
    rw [exec_liftExcept_bind]
    simp only [bind, Except.bind]
    cases drafted fresh now d permissions with
    | error fault => rfl
    | ok r =>
      dsimp only
      rw [exec_alter]
      cases s.ensureUniqueName r.name none <;> rfl

/-- The edited role is put back before its members are counted, and from there on nothing can
fail. -/
theorem exec_updateRole (now : Instant) (id : RoleId) (e : RoleEdit) (s : Store) :
    exec (updateRole now id e) s =
      match s.revised now id e with
      | .ok r => (.ok (s.counted r), s.putRole r)
      | .error fault => (.error fault, s) := by
  rw [updateRole, exec_look_bind, revised]
  cases s.resolve e.permissions with
  | error fault => rfl
  | ok permissions =>
    show exec (alter _ >>= withCount) s = _
    rw [exec_bind, exec_alter, mutableRole]
    simp only [bind, Except.bind]
    cases s.role id with
    | error fault => rfl
    | ok old =>
      dsimp only
      cases old.ensureMutable with
      | error fault => rfl
      | ok _ =>
        simp only [pure, Except.pure]
        cases edited old now e permissions with
        | error fault => rfl
        | ok r => exact exec_withCount r (s.putRole r)

/-- To delete a role is to take it away with its assignments, or to fail and leave the store as it
is. -/
theorem exec_deleteRole (id : RoleId) (s : Store) :
    exec (deleteRole id) s =
      match s.mutableRole id with
      | .ok _ => (.ok (), (s.dropRole id).dropAssignments id)
      | .error fault => (.error fault, s) := by
  rw [deleteRole, exec_bind, exec_alter, mutableRole]
  simp only [bind, Except.bind]
  cases s.role id with
  | error fault => rfl
  | ok r =>
    dsimp only
    cases r.ensureMutable <;> rfl

/-! ## What a call can leave -/

/-- What a call finds beside the store: an id for the role it creates, and the time. -/
structure Moment where
  fresh : RoleId
  now : Instant

/-- What a call of any kind can leave of a store: what was there, or one change, whose conditions
were met when it was made. -/
inductive Effect (m : Moment) (s : Store) : Gateway.Call → Store → Prop where
  | nothing (c : Gateway.Call) : Effect m s c s
  | create {d : RoleDraft} {permissions : List Permission} {r : Role}
      (resolved : s.resolve d.permissions = .ok permissions)
      (made : drafted m.fresh m.now d permissions = .ok r)
      (free : s.ensureUniqueName r.name none = .ok ()) :
      Effect m s (.createRole d) (s.putRole r)
  | update {id : RoleId} {e : RoleEdit} {permissions : List Permission} {old r : Role}
      (resolved : s.resolve e.permissions = .ok permissions)
      (found : s.role id = .ok old)
      (custom : old.isSystem = false)
      (made : edited old m.now e permissions = .ok r) :
      Effect m s (.updateRole id e) (s.putRole r)
  | delete {id : RoleId} {r : Role}
      (found : s.role id = .ok r)
      (custom : r.isSystem = false) :
      Effect m s (.deleteRole id) ((s.dropRole id).dropAssignments id)
  | change {id : RoleId} {o : Operation}
      (accepted : s.refusal? id o = none) :
      Effect m s (.change id o) (s.applyChange id o)

/-- A creation adds one role or changes nothing. -/
theorem effect_createRole (m : Moment) (d : RoleDraft) (s : Store) :
    Effect m s (.createRole d) (exec (createRole m.fresh m.now d) s).2 := by
  rw [exec_createRole]
  cases h : s.created m.fresh m.now d with
  | error fault => exact .nothing _
  | ok r =>
    obtain ⟨permissions, hp, h⟩ := bind_eq_ok_iff.mp h
    obtain ⟨r', hr, h⟩ := bind_eq_ok_iff.mp h
    obtain ⟨_, hu, h⟩ := bind_eq_ok_iff.mp h
    cases h
    exact .create hp hr hu

/-- An update replaces one role or changes nothing. -/
theorem effect_updateRole (m : Moment) (id : RoleId) (e : RoleEdit) (s : Store) :
    Effect m s (.updateRole id e) (exec (updateRole m.now id e) s).2 := by
  rw [exec_updateRole]
  cases h : s.revised m.now id e with
  | error fault => exact .nothing _
  | ok r =>
    obtain ⟨permissions, hp, h⟩ := bind_eq_ok_iff.mp h
    obtain ⟨old, hf, hr⟩ := bind_eq_ok_iff.mp h
    obtain ⟨hf, hc⟩ := mutableRole_eq_ok hf
    exact .update hp hf hc hr

/-- A deletion takes away one role and its assignments or changes nothing. -/
theorem effect_deleteRole (m : Moment) (id : RoleId) (s : Store) :
    Effect m s (.deleteRole id) (exec (deleteRole id) s).2 := by
  rw [exec_deleteRole]
  cases h : s.mutableRole id with
  | error fault => exact .nothing _
  | ok r =>
    obtain ⟨hf, hc⟩ := mutableRole_eq_ok h
    exact .delete hf hc

/-- A membership call changes one assignment or nothing. -/
theorem effect_change (m : Moment) (id : RoleId) (o : Operation) (s : Store) :
    Effect m s (.change id o) (exec (change id o) s).2 := by
  rw [exec_change]
  cases h : s.refusal? id o with
  | some fault => exact .nothing _
  | none => exact .change h

end Store

end Rolebook
