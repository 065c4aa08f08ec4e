import Rolebook.Proofs.Ordered.Map
import Rolebook.Proofs.Store.Invocations

/-!
# Counts that do not show

A role carries a count of its users, and a stored role may carry any. `uncounted` sets the counts
inside the stored roles to zero: every call answers as before and leaves what it would have left,
uncounted (`alikeGateways_uncounted`). So the counts that inserted roles carry make no difference to
anything that is read later on (`undergo_uncounted`).
-/

namespace Rolebook

/-- A role with nobody counted. -/
def Role.uncounted (r : Role) : Role := { r with userCount := 0 }

theorem Role.uncounted_of_ofInput {input : RoleInput} {r : Role} (h : ofInput input = .ok r)
    (hcount : input.userCount = 0) : r.uncounted = r := by
  obtain ⟨name, rfl⟩ := exists_eq_named h
  exact Role.ext rfl rfl rfl rfl rfl rfl hcount.symm rfl rfl

namespace Store

/-- The store with nobody counted inside its roles. -/
def uncounted (s : Store) : Store := { s with roles := s.roles.map Role.uncounted }

/-- The first store is the second uncounted. -/
def Uncounted (s' s : Store) : Prop := s' = s.uncounted

variable (s : Store)

/-! ## What a call looks at -/

theorem contains_uncounted (id : RoleId) :
    s.uncounted.roles.contains id = s.roles.contains id :=
  SortedMap.contains_map Role.uncounted s.roles id

/-- The same roles are found with counts and without. -/
theorem role_uncounted (id : RoleId) :
    s.uncounted.role id = (s.role id).map Role.uncounted := by
  rw [role, role, uncounted, SortedMap.find?_map]
  cases s.roles.find? id <;> rfl

/-- Counts have no say in whether a name is taken. -/
theorem ensureUniqueName_uncounted (name : NonBlank) (except : Option RoleId) :
    s.uncounted.ensureUniqueName name except = s.ensureUniqueName name except := by
  rw [ensureUniqueName, ensureUniqueName, uncounted, SortedMap.values_map, List.any_map]
  rfl

/-- Counts have no say in which roles may be changed. -/
theorem mutableRole_uncounted (id : RoleId) :
    s.uncounted.mutableRole id = (s.mutableRole id).map Role.uncounted := by
  rw [mutableRole, mutableRole, role_uncounted]
  simp only [bind, Except.bind]
  cases s.role id with
  | error fault => rfl
  | ok r =>
    have hsame : r.uncounted.ensureMutable = r.ensureMutable := rfl
    dsimp only [Except.map]
    rw [hsame]
    cases r.ensureMutable <;> rfl

/-- Counts have no say in what is created. -/
theorem created_uncounted (fresh : RoleId) (now : Instant) (d : RoleDraft) :
    s.uncounted.created fresh now d = s.created fresh now d := by
  rw [created, created]
  simp only [ensureUniqueName_uncounted]
  rfl

/-- An edit looks at nothing that is counted. -/
theorem revised_uncounted (now : Instant) (id : RoleId) (e : RoleEdit) :
    s.uncounted.revised now id e = s.revised now id e := by
  rw [revised, revised, mutableRole_uncounted]
  show (s.resolve e.permissions >>= _) = _
  cases s.resolve e.permissions with
  | error fault => rfl
  | ok permissions => cases s.mutableRole id <;> rfl

variable {s}

/-- A new role has no count yet. -/
theorem uncounted_created {fresh : RoleId} {now : Instant} {d : RoleDraft} {r : Role}
    (h : s.created fresh now d = .ok r) : r.uncounted = r := by
  obtain ⟨_, -, h⟩ := bind_eq_ok_iff.mp h
  obtain ⟨r', hr, h⟩ := bind_eq_ok_iff.mp h
  obtain ⟨_, -, h⟩ := bind_eq_ok_iff.mp h
  cases h
  exact Role.uncounted_of_ofInput hr rfl

/-- An edited role has no count yet. -/
theorem uncounted_revised {now : Instant} {id : RoleId} {e : RoleEdit} {r : Role}
    (h : s.revised now id e = .ok r) : r.uncounted = r := by
  obtain ⟨_, -, h⟩ := bind_eq_ok_iff.mp h
  obtain ⟨old, -, h⟩ := bind_eq_ok_iff.mp h
  exact Role.uncounted_of_ofInput h rfl

variable (s)

/-! ## What a call changes -/

theorem uncounted_putRole (r : Role) :
    (s.putRole r).uncounted = s.uncounted.putRole r.uncounted :=
  congrArg (fun roles => { s with roles := roles })
    (SortedMap.map_insert Role.uncounted s.roles r.id r)

theorem uncounted_delete (id : RoleId) :
    ((s.dropRole id).dropAssignments id).uncounted
      = (s.uncounted.dropRole id).dropAssignments id :=
  congrArg (fun roles => ({ s with roles := roles } : Store).dropAssignments id)
    (SortedMap.map_erase Role.uncounted s.roles id)

theorem uncounted_applyChange (id : RoleId) (o : Operation) :
    (s.applyChange id o).uncounted = s.uncounted.applyChange id o := by
  cases o <;> rfl

/-- A membership call is refused or not, whatever is counted. -/
theorem refusal?_uncounted (id : RoleId) (o : Operation) :
    s.uncounted.refusal? id o = s.refusal? id o := by
  rw [refusal?, refusal?, contains_uncounted]
  rfl

/-! ## The calls -/

variable {α : Type} {s}

/-- A call that does the same with counts and without is alike in both. -/
theorem alike_of_exec {x : Call α}
    (h : ∀ s : Store, exec x s.uncounted = ((exec x s).1, (exec x s).2.uncounted)) :
    Alike Uncounted x.run.run x.run.run := by
  rintro _ s rfl
  show (exec x s.uncounted).1 = (exec x s).1 ∧ (exec x s.uncounted).2 = (exec x s).2.uncounted
  rw [h s]
  exact ⟨rfl, rfl⟩

/-- A reading answers with counts of its own. -/
theorem alike_listRoles_uncounted : Alike Uncounted listRoles.run.run listRoles.run.run := by
  refine alike_of_exec fun s => ?_
  rw [exec_listRoles, exec_listRoles]
  show (Except.ok ((s.roles.map Role.uncounted).values.map s.counted), s.uncounted) = _
  rw [SortedMap.values_map, List.map_map]
  rfl

theorem alike_getRole_uncounted (id : RoleId) :
    Alike Uncounted (getRole id).run.run (getRole id).run.run := by
  refine alike_of_exec fun s => ?_
  rw [exec_getRole, exec_getRole, role_uncounted]
  cases s.role id <;> rfl

theorem alike_createRole_uncounted (fresh : RoleId) (now : Instant) (d : RoleDraft) :
    Alike Uncounted (createRole fresh now d).run.run (createRole fresh now d).run.run := by
  refine alike_of_exec fun s => ?_
  rw [exec_createRole, exec_createRole, created_uncounted]
  cases h : s.created fresh now d with
  | error fault => rfl
  | ok r =>
    dsimp only
    rw [uncounted_putRole, uncounted_created h]

theorem alike_updateRole_uncounted (now : Instant) (id : RoleId) (e : RoleEdit) :
    Alike Uncounted (updateRole now id e).run.run (updateRole now id e).run.run := by
  refine alike_of_exec fun s => ?_
  rw [exec_updateRole, exec_updateRole, revised_uncounted]
  cases h : s.revised now id e with
  | error fault => rfl
  | ok r =>
    dsimp only
    rw [uncounted_putRole, uncounted_revised h]
    rfl

theorem alike_deleteRole_uncounted (id : RoleId) :
    Alike Uncounted (deleteRole id).run.run (deleteRole id).run.run := by
  refine alike_of_exec fun s => ?_
  rw [exec_deleteRole, exec_deleteRole, mutableRole_uncounted]
  cases s.mutableRole id with
  | error fault => rfl
  | ok r => exact Prod.ext rfl (uncounted_delete s id).symm

theorem alike_listMembers_uncounted (id : RoleId) :
    Alike Uncounted (listMembers id).run.run (listMembers id).run.run := by
  refine alike_of_exec fun s => ?_
  rw [exec_listMembers, exec_listMembers, contains_uncounted]
  cases s.roles.contains id <;> rfl

theorem alike_change_uncounted (id : RoleId) (o : Operation) :
    Alike Uncounted (change id o).run.run (change id o).run.run := by
  refine alike_of_exec fun s => ?_
  rw [exec_change, exec_change, refusal?_uncounted]
  cases s.refusal? id o with
  | some fault => rfl
  | none => exact Prod.ext rfl (uncounted_applyChange s id o).symm

theorem alike_changeAll_uncounted (id : RoleId) (os : List Operation) :
    Alike Uncounted (changeAll id os).run (changeAll id os).run := by
  induction os with
  | nil => exact .pure _
  | cons o os ih =>
    have hcons : (changeAll id (o :: os)).run = (do
        let result ← (change id o).run.run
        let outcomes ← (changeAll id os).run
        return ⟨o, result⟩ :: outcomes : StateM Store (List Outcome)) := by
      funext s
      rw [changeAll, List.mapM_cons, Routine.run_bind, Routine.run_bind, Routine.run_bind]
      rfl
    rw [hcons]
    exact (alike_change_uncounted id o).bind fun _ => ih.bind fun _ => .pure _

/-- The calls answer the same, and leave the same but for the counts inside roles. -/
theorem alikeGateways_uncounted (m : Moment) (creating : Bool) :
    AlikeGateways Uncounted creating (gateway m.fresh m.now) (gateway m.fresh m.now) where
  listRoles := alike_listRoles_uncounted
  getRole := alike_getRole_uncounted
  createRole _ := alike_createRole_uncounted m.fresh m.now
  updateRole := alike_updateRole_uncounted m.now
  deleteRole := alike_deleteRole_uncounted
  listPermissions := alike_of_exec fun _ => rfl
  listUsers := alike_of_exec fun _ => rfl
  listMembers := alike_listMembers_uncounted
  changeAll _ := alike_changeAll_uncounted

/-! ## Whole runs -/

/-- The act with nobody counted inside a role that it inserts. -/
def Act.uncounted : Act → Act
  | .insertRole r => .insertRole r.uncounted
  | a => a

/-- The invocation with nobody counted inside a role that it inserts. -/
def Invocation.uncounted : Invocation → Invocation
  | .act a => .act a.uncounted
  | d => d

theorem Act.apply_uncounted (s : Store) (a : Act) :
    a.uncounted.apply s.uncounted = (a.apply s).uncounted := by
  cases a with
  | insertRole r =>
    show (Act.insertRole r.uncounted).apply s.uncounted = _
    rw [Act.apply, Act.apply, Store.insertRole, Store.insertRole]
    have hname : s.uncounted.ensureUniqueName r.uncounted.name (some r.uncounted.id)
        = s.ensureUniqueName r.name (some r.id) := ensureUniqueName_uncounted s r.name (some r.id)
    rw [hname]
    cases s.ensureUniqueName r.name (some r.id) with
    | error fault => rfl
    | ok _ => exact (uncounted_putRole s r).symm
  | call m c =>
    have h := alikeGateways_uncounted m true
    cases c with
    | listRoles => exact (h.listRoles _ _ rfl).2
    | getRole id => exact (h.getRole id _ _ rfl).2
    | createRole d => exact (h.createRole rfl d _ _ rfl).2
    | updateRole id e => exact (h.updateRole id e _ _ rfl).2
    | deleteRole id => exact (h.deleteRole id _ _ rfl).2
    | listPermissions => rfl
    | listUsers => rfl
    | members id => exact (h.listMembers id _ _ rfl).2
    | change id o => exact (alike_change_uncounted id o _ _ rfl).2
  | insertUser u => rfl
  | insertPermission p => rfl
  | failFor u => rfl
  | clearFailures => rfl

theorem Invocation.apply_uncounted (s : Store) (d : Invocation) :
    d.uncounted.apply s.uncounted = (d.apply s).uncounted := by
  cases d with
  | act a => exact a.apply_uncounted s
  | administer m limits t => exact (t.alike limits (alikeGateways_uncounted m _) _ _ rfl).2
  | command m limits c => exact (c.alike_run limits (alikeGateways_uncounted m _) _ _ rfl).2

/-- A run leaves the same, but for the counts inside roles, whatever the counts in the roles
inserted. -/
theorem undergo_uncounted (s : Store) (history : List Invocation) :
    s.uncounted.undergo (history.map Invocation.uncounted) = (s.undergo history).uncounted := by
  induction history generalizing s with
  | nil => rfl
  | cons d history ih =>
    show (d.uncounted.apply s.uncounted).undergo _ = _
    rw [d.apply_uncounted, ih]
    rfl

end Store

end Rolebook
