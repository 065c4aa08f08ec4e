import Rolebook.Proofs.Administrator.Roles
import Rolebook.Proofs.Store.Integrity

/-!
# System roles

A system role cannot be changed through the calls of the store. Three facts about single acts carry
this to runs of any length. An act changes or deletes a role only if that is found to be custom; it
puts a role under another id than its own only if it inserts or creates one there (`Act.Avoids`);
and what it creates or changes is custom. So a system role stays as it is for as long as nobody
inserts another in its place (`Kept`), and a role is a system role only if it was inserted as one
(`NoneNew`).
-/

namespace Rolebook.Store

variable {s : Store} {id : RoleId} {r : Role}

/-! ## What an act can put in -/

/-- An act that does not put a new role under this id. -/
def Act.Avoids (id : RoleId) : Act → Prop
  | .insertRole r => r.id ≠ id
  | .call m (.createRole _) => m.fresh ≠ id
  | _ => True

/-- An invocation that does not put a new role under this id: it inserts none there, and if it can
create a role, that gets another id. -/
def Invocation.Avoids (id : RoleId) : Invocation → Prop
  | .act a => a.Avoids id
  | .administer m _ t => t.creates = true → m.fresh ≠ id
  | .command m _ c => c.creates = true → m.fresh ≠ id

/-- A call avoids an id unless it creates a role under it. -/
theorem avoids_call {m : Moment} {c : Gateway.Call} (h : c.creates = true → m.fresh ≠ id) :
    (Act.call m c).Avoids id := by
  cases c with
  | createRole d => exact h rfl
  | listRoles | getRole | updateRole | deleteRole | listPermissions | listUsers | members | change =>
    exact trivial

theorem Invocation.Avoids.act {d : Invocation} (h : d.Avoids id) {a : Act} (ha : d.Involves a) :
    a.Avoids id := by
  cases d with
  | act b => exact (show a = b from ha) ▸ h
  | administer m limits t =>
    obtain ⟨c, rfl, hc⟩ := ha
    exact avoids_call fun hcreates => h (hc hcreates)
  | command m limits c' =>
    obtain ⟨c, rfl, hc⟩ := ha
    exact avoids_call fun hcreates => h (hc hcreates)

/-- What is drafted is no system role. -/
theorem custom_of_drafted {fresh : RoleId} {now : Instant} {d : RoleDraft}
    {permissions : List Permission} (h : drafted fresh now d permissions = .ok r) :
    r.isSystem = false := by
  obtain ⟨name, rfl⟩ := Role.exists_eq_named h
  rfl

/-- What comes of an edit is no system role. -/
theorem custom_of_edited {old : Role} {now : Instant} {e : RoleEdit}
    {permissions : List Permission} (h : edited old now e permissions = .ok r) :
    r.isSystem = false := by
  rw [edited, Role.ofInput_of_name old.name rfl] at h
  cases h
  rfl

/-! ## System roles that stay -/

/-- A system role stands under this id. -/
structure Kept (id : RoleId) (r : Role) (s : Store) : Prop extends Sound s where
  stored : s.roles.find? id = some r
  system : r.isSystem = true

/-- A role that may be changed is not the one that is kept. -/
theorem Kept.ne_of_custom (h : Kept id r s) {id' : RoleId} {old : Role} (hf : s.role id' = .ok old)
    (hc : old.isSystem = false) : id' ≠ id := by
  rintro rfl
  rw [role_of_find? h.stored] at hf
  cases hf
  rw [h.system] at hc
  cases hc

/-- A role put in under another id leaves it as it is. -/
theorem Kept.putRole (h : Kept id r s) {r' : Role} (hid : r'.id ≠ id) : Kept id r (s.putRole r') where
  toSound := h.toSound.putRole r'
  stored := (SortedMap.find?_insert_ne s.roles r' hid).trans h.stored
  system := h.system

/-- One act that avoids the id keeps the system role there. -/
theorem Kept.step (h : Kept id r s) {a : Act} (ha : a.Avoids id) {s' : Store} (hs : Step s a s') :
    Kept id r s' := by
  have hsound : s'.Sound := h.toSound.step hs
  cases hs with
  | insertUser | insertPermission | failFor | clearFailures => exact ⟨hsound, h.stored, h.system⟩
  | insertRole => exact h.putRole ha
  | nameTaken => exact h
  | call effect =>
    cases effect with
    | nothing => exact h
    | create _ made => exact h.putRole fun e => ha ((id_of_ofInput made).symm.trans e)
    | update _ found custom made =>
      have hid := (id_name_of_edited made).1.trans (h.toSound.id_of_role found)
      exact h.putRole fun e => h.ne_of_custom found custom (hid.symm.trans e)
    | delete found custom =>
      have hsame := sameRole_delete s (h.ne_of_custom found custom)
      exact ⟨hsound, hsame.role.trans h.stored, h.system⟩
    | change =>
      refine ⟨hsound, ?_, h.system⟩
      rw [roles_applyChange]
      exact h.stored

/-- What each act of a run keeps, the run keeps. -/
theorem Kept.undergo (h : Kept id r s) {history : List Invocation}
    (hd : ∀ d ∈ history, d.Avoids id) : Kept id r (s.undergo history) :=
  undergo_keeps (fun d hmem a ha s hs => hs.step ((hd d hmem).act ha) (step_apply s a)) h

/-! ## No others -/

/-- Every system role of the one store is in the other, under the same id. -/
def NoneNew (s t : Store) : Prop :=
  ∀ (id : RoleId) (r : Role), t.roles.find? id = some r → r.isSystem = true →
    s.roles.find? id = some r

variable {t : Store}

/-- A role that is no system role does not add to those. -/
theorem NoneNew.putRole (h : NoneNew s t) {r : Role} (hc : r.isSystem = false) :
    NoneNew s (t.putRole r) := by
  intro id r' hr' hsystem
  rcases SortedMap.find?_insert_eq_some_iff.mp hr' with ⟨-, rfl⟩ | ⟨-, hr'⟩
  · rw [hc] at hsystem
    cases hsystem
  · exact h id r' hr' hsystem

/-- One act brings no system role in, unless it inserts one. -/
theorem NoneNew.step (h : NoneNew s t) {a : Act} (ha : ∀ r, a ≠ .insertRole r) {t' : Store}
    (ht : Step t a t') : NoneNew s t' := by
  cases ht with
  | insertUser | insertPermission | failFor | clearFailures => exact h
  | insertRole => exact absurd rfl (ha _)
  | nameTaken r => exact absurd rfl (ha r)
  | call effect =>
    cases effect with
    | nothing => exact h
    | create _ made => exact h.putRole (custom_of_drafted made)
    | update _ _ _ made => exact h.putRole (custom_of_edited made)
    | delete => exact fun id r hr => h id r (find?_dropRole hr)
    | change =>
      intro id r hr
      rw [roles_applyChange] at hr
      exact h id r hr

/-- A run in which no role is put in from outside makes no system role. -/
theorem noneNew_undergo {history : List Invocation}
    (h : ∀ d ∈ history, ∀ r, d ≠ .act (.insertRole r)) : NoneNew s (s.undergo history) := by
  refine undergo_keeps (fun d hd a ha t ht => ht.step ?_ (step_apply t a)) fun _ _ hr _ => hr
  rintro r rfl
  cases d with
  | act b => exact h _ hd r (congrArg Invocation.act (show Act.insertRole r = b from ha).symm)
  | administer => obtain ⟨_, hcall, -⟩ := ha; cases hcall
  | command => obtain ⟨_, hcall, -⟩ := ha; cases hcall

/-! ## What is answered -/

/-- The permissions with some ids, if each of them is registered; the first that is not is named. -/
theorem resolve_eq (s : Store) (ids : List PermissionId) :
    s.resolve ids =
      match ids.find? fun p => !s.permissions.contains p with
      | some p => .error (.unknownPermission p)
      | none => .ok (ids.filterMap s.permissions.find?) := by
  induction ids with
  | nil => rfl
  | cons p ids ih =>
    unfold resolve at ih ⊢
    rw [List.mapM_cons, ih]
    cases hp : s.permissions.find? p with
    | none =>
      have hunknown : (!s.permissions.contains p) = true := by simp [SortedMap.contains, hp]
      rw [List.find?_cons, hunknown]
      rfl
    | some found =>
      have hknown : (!s.permissions.contains p) = false := by simp [SortedMap.contains, hp]
      rw [List.find?_cons, hknown, List.filterMap_cons, hp]
      cases ids.find? fun p => !s.permissions.contains p <;> rfl

/-- A system role may not be changed, and the fault says so. -/
theorem mutableRole_of_system (hr : s.roles.find? id = some r) (hsystem : r.isSystem = true) :
    s.mutableRole id = .error (.systemRole r.name.text) := by
  rw [mutableRole, role_of_find? hr]
  show (r.ensureMutable >>= fun _ => pure r) = _
  rw [Role.ensureMutable, hsystem]
  rfl

/-- An edit of a system role is turned away for a permission that is not registered, or else because
the role is a system role. -/
theorem revised_of_system (hr : s.roles.find? id = some r) (hsystem : r.isSystem = true)
    (now : Instant) (e : RoleEdit) :
    s.revised now id e = .error
      (match e.permissions.find? fun p => !s.permissions.contains p with
      | some p => .unknownPermission p
      | none => .systemRole r.name.text) := by
  rw [revised, resolve_eq, mutableRole_of_system hr hsystem]
  cases e.permissions.find? fun p => !s.permissions.contains p <;> rfl

/-- An administrator reads a role before changing it, and stops at a system role. -/
theorem run_requireMutable (h : Kept id r s) (m : Moment) (limits : Limits) :
    ((administrator m limits).requireMutable id).run.run s
      = (.error (.systemRole r.name.text), s) := by
  have hread : ((administrator m limits).gateway.getRole id).run.run s = _ :=
    run_getRole_stored h.toSound h.stored m
  rw [Administrator.run_requireMutable, hread]
  dsimp only
  rw [Role.ensureMutable, if_pos h.system]

/-- **System roles stay as they are.** Take a store left by any run and whatever is done to it
after. A stored system role, unless something is inserted or created under its id, is still stored
as it was. A reading shows it as it was, with the count of its members; an administrator is
forbidden to update or delete it, and so is whoever calls the store, where an update that names an
unregistered permission is turned away for that. And unless some role is inserted, every system role
there is was there before. -/
theorem system_roles_stay (history later : List Invocation) :
    let s := empty.undergo history
    let t := s.undergo later
    (∀ (id : RoleId) (r : Role), s.roles.find? id = some r → r.isSystem = true →
      (∀ d ∈ later, d.Avoids id) →
      t.roles.find? id = some r ∧
      ∀ (m : Moment) (limits : Limits) (e : RoleEdit),
        let g := gateway m.fresh m.now
        let a := administrator m limits
        let forbidden := Fault.systemRole r.name.text
        forbidden.kind = .forbidden ∧
        (∀ p, (Fault.unknownPermission p).kind = .validation) ∧
        (∃ (users : List User) (count : UInt32), (g.listMembers id).run.run t = (.ok users, t) ∧
          count.toNat = min (UInt32.size - 1) users.length ∧
          (g.getRole id).run.run t = (.ok { r with userCount := count }, t)) ∧
        (a.updateRole id e).run.run t = (.error forbidden, t) ∧
        (a.deleteRole id).run.run t = (.error forbidden, t) ∧
        (g.deleteRole id).run.run t = (.error forbidden, t) ∧
        (g.updateRole id e).run.run t = (.error
          (match e.permissions.find? fun p => !t.permissions.contains p with
          | some p => .unknownPermission p
          | none => forbidden), t)) ∧
    ((∀ d ∈ later, ∀ r, d ≠ .act (.insertRole r)) →
      ∀ (id : RoleId) (r : Role), t.roles.find? id = some r → r.isSystem = true →
        s.roles.find? id = some r) := by
  intro s t
  refine ⟨fun id r hr hsystem hlater => ?_, fun hlater => noneNew_undergo hlater⟩
  have hs : Kept id r s := ⟨sound_undergo history, hr, hsystem⟩
  have ht : Kept id r t := hs.undergo hlater
  refine ⟨ht.stored, fun m limits e => ?_⟩
  intro g a forbidden
  have hrequire : (a.requireMutable id).run.run t = (.error forbidden, t) :=
    run_requireMutable ht m limits
  have hmutable : t.mutableRole id = .error forbidden := mutableRole_of_system ht.stored hsystem
  refine ⟨rfl, fun _ => rfl, ?_, ?_, ?_, ?_, ?_⟩
  · exact ⟨t.members id, t.countMembers id, run_listMembers_stored ht.stored m,
      toNat_countMembers ht.toSound id, run_getRole_stored ht.toSound ht.stored m⟩
  · rw [Administrator.updateRole, Administrator.run_attempt_bind, hrequire]
  · rw [Administrator.deleteRole, Administrator.run_attempt_bind, hrequire]
  · have hdelete : (g.deleteRole id).run.run t = _ := exec_deleteRole id t
    rw [hdelete, hmutable]
  · have hupdate : (g.updateRole id e).run.run t = _ := exec_updateRole m.now id e t
    rw [hupdate, revised_of_system ht.stored hsystem]

/-- A system role, and a user. -/
def guarded : List Invocation := [.act (.insertRole (editors true 0)), .act (.insertUser ada)]

/-- The role is to be deleted, another role is created, and the user gets the role. -/
def attempts : List Invocation :=
  [.administer someMoment {} (.deleteRole editorsId),
    .command someMoment {} (.createRole "Authors" []),
    .act (.call someMoment (.change editorsId (.assign ada.id)))]

theorem system_roles_stay_attempts :
    let s := empty.undergo guarded
    let t := s.undergo attempts
    (∃ r, s.roles.find? editorsId = some r ∧ r.isSystem = true ∧
      t.roles.find? editorsId = some r ∧
      ((administrator someMoment {}).deleteRole editorsId).run.run t
        = (.error (.systemRole "Editors"), t)) ∧
    ∀ (id : RoleId) (r : Role), t.roles.find? id = some r → r.isSystem = true →
      s.roles.find? id = some r := by
  intro s t
  obtain ⟨hstay, hnone⟩ := system_roles_stay guarded attempts
  have havoids : ∀ d ∈ attempts, d.Avoids editorsId := by
    simp [attempts, Invocation.Avoids, Act.Avoids, someMoment, editorsId]
  obtain ⟨hstored, hcalls⟩ := hstay editorsId _ rfl rfl havoids
  obtain ⟨-, -, -, -, hdelete, -⟩ := hcalls someMoment {} {}
  exact ⟨⟨_, rfl, rfl, hstored, hdelete⟩, hnone (by simp [attempts])⟩

end Rolebook.Store
