import Rolebook.Proofs.Administrator.Harmless
import Rolebook.Proofs.Store.Invocations

/-!
# Failures that leave no trace

A call to the store makes several steps, and a failure can come at any of them. Yet what fails
leaves the store as it was. For a single call this can be read off its equation: nothing is written
before all checks are passed, and the one thing that comes after a write, making the edited role
again with its count, cannot fail. For a batch, a change that is refused is not made. So the gateway
of a store is harmless, and administrators and commands are harmless with it.
-/

namespace Rolebook

/-- Makes a call: what it fails with, if it fails. -/
def Gateway.Call.perform {m : Type → Type} [Monad m] (g : Gateway m) :
    Gateway.Call → Attempt m Unit
  | .listRoles => Administrator.ended g.listRoles
  | .getRole id => Administrator.ended (g.getRole id)
  | .createRole d => Administrator.ended (g.createRole d)
  | .updateRole id e => Administrator.ended (g.updateRole id e)
  | .deleteRole id => g.deleteRole id
  | .listPermissions => Administrator.ended g.listPermissions
  | .listUsers => Administrator.ended g.listUsers
  | .members id => Administrator.ended (g.listMembers id)
  | .change id o => g.change id o

/-- What a call leaves is the state after it. -/
theorem Gateway.Call.leave_eq_perform {σ : Type} (g : Gateway (StateM σ)) (c : Gateway.Call)
    (s : σ) : c.leave g s = ((c.perform g).run.run s).2 := by
  cases c with
  | deleteRole | change => rfl
  | listRoles | getRole | createRole | updateRole | listPermissions | listUsers | members =>
    exact (congrArg Prod.snd (run_ended _ s)).symm

/-- A call to a harmless gateway changes nothing if it fails. -/
theorem Gateway.Call.stillIf_failed {σ : Type} {g : Gateway (StateM σ)} (h : g.Harmless)
    (c : Gateway.Call) : StillIf Failed (c.perform g).run := by
  cases c with
  | listRoles => exact (h.listRoles.stillIf _).ended
  | getRole id => exact ((h.getRole id).stillIf _).ended
  | createRole d => exact (h.createRole d).ended
  | updateRole id e => exact (h.updateRole id e).ended
  | deleteRole id => exact h.deleteRole id
  | listPermissions => exact (h.listPermissions.stillIf _).ended
  | listUsers => exact (h.listUsers.stillIf _).ended
  | members id => exact ((h.listMembers id).stillIf _).ended
  | change id o => exact h.change id o

namespace Store

variable {s : Store}

/-! ## The gateway -/

/-- If all operations of a batch fail, the store has taken none of them. -/
theorem accepted_eq_nil {id : RoleId} {os : List Operation}
    (h : ∀ x ∈ ((changeAll id os).run s).1, Failed x.result) : s.accepted id os = [] := by
  rw [run_changeAll] at h
  refine List.filter_eq_nil_iff.mpr fun o ho hnone => ?_
  have hfailed : Failed (s.answer id o) := h _ (List.mem_map_of_mem ho)
  rw [answer, Option.isNone_iff_eq_none.mp hnone] at hfailed
  exact hfailed

/-- What the store does not do leaves no trace in it. -/
theorem harmless_gateway (m : Moment) : (gateway m.fresh m.now).Harmless where
  listRoles s := congrArg Prod.snd (exec_listRoles s)
  getRole id s := congrArg Prod.snd (exec_getRole id s)
  createRole d s := by
    have he : ((gateway m.fresh m.now).createRole d).run.run s = _ :=
      exec_createRole m.fresh m.now d s
    rw [he]
    cases s.created m.fresh m.now d with
    | ok r => exact False.elim
    | error fault => exact fun _ => rfl
  updateRole id e s := by
    have he : ((gateway m.fresh m.now).updateRole id e).run.run s = _ :=
      exec_updateRole m.now id e s
    rw [he]
    cases s.revised m.now id e with
    | ok r => exact False.elim
    | error fault => exact fun _ => rfl
  deleteRole id s := by
    have he : ((gateway m.fresh m.now).deleteRole id).run.run s = _ := exec_deleteRole id s
    rw [he]
    cases s.mutableRole id with
    | ok r => exact False.elim
    | error fault => exact fun _ => rfl
  listPermissions _ := rfl
  listUsers _ := rfl
  listMembers id s := by
    have he : ((gateway m.fresh m.now).listMembers id).run.run s = _ := exec_listMembers id s
    rw [he]
    cases s.roles.contains id <;> rfl
  change id o s := by
    have he : ((gateway m.fresh m.now).change id o).run.run s = _ := exec_change id o s
    rw [he]
    cases s.refusal? id o with
    | none => exact False.elim
    | some fault => exact fun _ => rfl
  changeAll _ id os s h := by
    show ((changeAll id os).run s).2 = s
    -- every call failed, so none of the changes was accepted
    have hnone := accepted_eq_nil h
    rw [run_changeAll, hnone]
    rfl

/-! ## Invocations that fail -/

/-- An invocation fails on a store: a call or a task ends in a fault, or a command does or says that
everything failed. -/
def Invocation.Fails (s : Store) : Invocation → Prop
  | .act (.insertRole r) => Failed (s.insertRole r)
  | .act (.call m c) => Failed ((c.perform (gateway m.fresh m.now)).run.run s).1
  | .act _ => False
  | .administer m limits t => Failed ((t.perform (administrator m limits)).run.run s).1
  | .command m limits c => Command.Failing ((c.run (administrator m limits)).run.run s).1

/-- What fails leaves the store as it was. -/
theorem apply_of_fails {d : Invocation} (h : d.Fails s) : d.apply s = s := by
  cases d with
  | act a =>
    cases a with
    | insertRole r =>
      have h : Failed (s.insertRole r) := h
      cases hr : s.insertRole r with
      | ok s' => rw [hr] at h; exact h.elim
      | error fault => exact apply_of_refused hr
    | call m c =>
      show c.leave (gateway m.fresh m.now) s = s
      rw [Gateway.Call.leave_eq_perform]
      exact c.stillIf_failed (harmless_gateway m) s h
    | insertUser | insertPermission | failFor | clearFailures => exact h.elim
  | administer m limits t => exact t.stillIf_failed limits (harmless_gateway m) s h
  | command m limits c => exact c.stillIf_failing limits (harmless_gateway m) s h

/-- Where the permissions of an edit are known and the role is stored and can be changed, nothing
stands in the way of the edit, neither before the role is written nor after. -/
theorem run_updateRole {m : Moment} {id : RoleId} {e : RoleEdit} {permissions : List Permission}
    {r : Role} (hs : s.Sound) (hp : s.resolve e.permissions = .ok permissions)
    (hr : s.roles.find? id = some r) (hc : r.isSystem = false) :
    ∃ r', edited r m.now e permissions = .ok r' ∧
      ((gateway m.fresh m.now).updateRole id e).run.run s
        = (.ok { r' with userCount := s.countMembers id }, s.putRole r') := by
  obtain ⟨r', hr'⟩ := exists_edited r m.now e permissions
  have hid : r'.id = id := (id_name_of_edited hr').1.trans (hs.roleKeyed hr)
  have hrevised : s.revised m.now id e = .ok r' := by
    rw [revised, hp]
    show (s.mutableRole id >>= fun r => edited r m.now e permissions) = _
    rw [mutableRole_of_custom hr hc]
    exact (pure_bind r _).trans hr'
  refine ⟨r', hr', ?_⟩
  have he : ((gateway m.fresh m.now).updateRole id e).run.run s = _ := exec_updateRole m.now id e s
  rw [he, hrevised]
  show (Except.ok { r' with userCount := s.countMembers r'.id }, _) = _
  rw [hid]

/-- **Failures leave no trace.** Whatever was done to the empty store, an invocation that then fails
leaves all of the store as it was: a save or a retry of which nothing succeeded too, and a command
that says so. And an update whose checks are passed does not fail after the role is written: it
answers the role it has put there, with the count of its members. -/
theorem failures_leave_no_trace (history : List Invocation) :
    let s := empty.undergo history
    (∀ d : Invocation, d.Fails s → d.apply s = s) ∧
    ∀ (m : Moment) (id : RoleId) (e : RoleEdit) (permissions : List Permission) (r : Role),
      s.resolve e.permissions = .ok permissions → s.roles.find? id = some r →
      r.isSystem = false →
      ∃ r', edited r m.now e permissions = .ok r' ∧
        ((gateway m.fresh m.now).updateRole id e).run.run s
          = (.ok { r' with userCount := s.countMembers id }, s.putRole r') :=
  ⟨fun _ => apply_of_fails, fun _ _ _ _ _ => run_updateRole (sound_undergo history)⟩

/-- The one member wanted cannot be added, and the save leaves no trace; an edit goes through. -/
theorem failures_leave_no_trace_unlucky :
    let s := empty.undergo (unlucky.map .act)
    let save : Invocation := .administer someMoment {} (.saveMembers editorsId [ada.id])
    save.Fails s ∧ save.apply s = s ∧
      ∃ r s', ((gateway someMoment.fresh someMoment.now).updateRole editorsId {}).run.run s
        = (.ok r, s') := by
  intro s save
  have hfails : save.Fails s := by
    let administer := administrator someMoment {}
    show Failed ((Administrator.ended (administer.saveMembers _ _)).run.run s).1
    rw [run_ended, run_saveMembers_stored (sound_undergo _) rfl]
    trivial
  obtain ⟨hkept, hupdate⟩ := failures_leave_no_trace (unlucky.map .act)
  obtain ⟨r, -, hr⟩ := hupdate someMoment editorsId {} [] _ rfl rfl rfl
  exact ⟨hfails, hkept save hfails, _, _, hr⟩

end Store

end Rolebook
