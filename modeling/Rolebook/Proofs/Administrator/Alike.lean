import Rolebook.Command.Run
import Rolebook.Proofs.Alike

/-!
# Administrators that act alike

All that an administrator does with a backend is to call it. So two administrators whose gateways
act alike, call by call, act alike in every task (`Task.alike`) and in every command
(`alike_run`), whatever the relation between their states is.
-/

namespace Rolebook

variable {σ σ' α ε : Type} {R : σ' → σ → Prop} {creating : Bool}

/-- Two gateways act alike in each call; in the creation of a role only if it counts. -/
structure AlikeGateways (R : σ' → σ → Prop) (creating : Bool) (g' : Gateway (StateM σ'))
    (g : Gateway (StateM σ)) : Prop where
  listRoles : Alike R g'.listRoles.run g.listRoles.run
  getRole : ∀ id, Alike R (g'.getRole id).run (g.getRole id).run
  createRole : creating = true → ∀ d, Alike R (g'.createRole d).run (g.createRole d).run
  updateRole : ∀ id e, Alike R (g'.updateRole id e).run (g.updateRole id e).run
  deleteRole : ∀ id, Alike R (g'.deleteRole id).run (g.deleteRole id).run
  listPermissions : Alike R g'.listPermissions.run g.listPermissions.run
  listUsers : Alike R g'.listUsers.run g.listUsers.run
  listMembers : ∀ id, Alike R (g'.listMembers id).run (g.listMembers id).run
  changeAll : ∀ l id os, Alike R (g'.changeAll l id os) (g.changeAll l id os)

/-- Gateways that act alike in everything act alike whatever counts. -/
theorem AlikeGateways.of_true {g' : Gateway (StateM σ')} {g : Gateway (StateM σ)}
    (h : AlikeGateways R true g' g) : AlikeGateways R creating g' g :=
  { h with createRole := fun _ => h.createRole rfl }

namespace Administrator

/-- What an administrator can be asked to do. -/
inductive Task where
  | listRoles
  | findRole (reference : String)
  | listPermissions
  | listUsers
  | createRole (draft : RoleDraft)
  | updateRole (id : RoleId) (edit : RoleEdit)
  | deleteRole (id : RoleId)
  | members (role : RoleId)
  | planMembers (role : RoleId) (desired : List UserId)
  | saveMembers (role : RoleId) (desired : List UserId)
  | startSave (role : RoleId) (desired : SortedSet UserId)
  | retry (report : Report)
  | execute (plan : Plan)

/-- Whether a task can create a role. -/
def Task.creates : Task → Bool
  | .createRole _ => true
  | _ => false

variable {m : Type → Type} [Monad m]

/-- A computation of whose answer only the failure is kept. -/
def ended (x : ExceptT ε m α) : ExceptT ε m Unit := do
  let _ ← x
  return ()

/-- Carries out a task: what it fails with, if it fails. -/
def Task.perform (a : Administrator m) : Task → ExceptT BatchFault m Unit
  | .listRoles => ended (a.listRoles.adapt .call)
  | .findRole reference => ended ((a.findRole reference).adapt .call)
  | .listPermissions => ended (a.listPermissions.adapt .call)
  | .listUsers => ended (a.listUsers.adapt .call)
  | .createRole draft => ended ((a.createRole draft).adapt .call)
  | .updateRole id edit => ended ((a.updateRole id edit).adapt .call)
  | .deleteRole id => ended ((a.deleteRole id).adapt .call)
  | .members role => ended ((a.members role).adapt .call)
  | .planMembers role desired => ended ((a.planMembers role desired).adapt .call)
  | .saveMembers role desired => ended (a.saveMembers role desired)
  | .startSave role desired => ended (a.startSave role desired)
  | .retry report => ended (a.retry report)
  | .execute plan => ended (ExceptT.lift (a.execute plan))

/-! ## Roles -/

section Alike

variable {g' : Gateway (StateM σ')} {g : Gateway (StateM σ)} (limits : Limits)

/-- Sorting happens after the call, so lists that are alike stay alike. -/
theorem alike_listRoles (h : AlikeGateways R creating g' g) :
    Alike R (listRoles ⟨g', limits⟩).run (listRoles ⟨g, limits⟩).run :=
  h.listRoles.bind_attempt fun _ => .pure _

/-- A role is asked for by its id, or else looked for by its name in one listing. -/
theorem alike_findRole (h : AlikeGateways R creating g' g) (reference : String) :
    Alike R (findRole ⟨g', limits⟩ reference).run (findRole ⟨g, limits⟩ reference).run := by
  unfold findRole
  cases (Id.read reference : Except Fault RoleId) with
  | ok id => exact h.getRole id
  | error fault => exact h.listRoles.bind_attempt fun _ => .ofExcept _

theorem alike_listPermissions (h : AlikeGateways R creating g' g) :
    Alike R (listPermissions ⟨g', limits⟩).run (listPermissions ⟨g, limits⟩).run :=
  h.listPermissions.bind_attempt fun _ => .pure _

theorem alike_listUsers (h : AlikeGateways R creating g' g) :
    Alike R (listUsers ⟨g', limits⟩).run (listUsers ⟨g, limits⟩).run :=
  h.listUsers.bind_attempt fun _ => .pure _

/-- Only here does it matter that the gateways create roles alike. -/
theorem alike_createRole (h : AlikeGateways R true g' g) (draft : RoleDraft) :
    Alike R (createRole ⟨g', limits⟩ draft).run (createRole ⟨g, limits⟩ draft).run := by
  unfold createRole
  cases NonBlank.read draft.name with
  | ok name => exact h.createRole rfl _
  | error fault => exact .pure _

/-- Both gateways show the same role, so both let it be changed, or neither. -/
theorem alike_requireMutable (h : AlikeGateways R creating g' g) (id : RoleId) :
    Alike R (requireMutable ⟨g', limits⟩ id).run (requireMutable ⟨g, limits⟩ id).run :=
  (h.getRole id).bind_attempt fun _ => .ofExcept _

/-- The look at the role comes out the same, and then the update does. -/
theorem alike_updateRole (h : AlikeGateways R creating g' g) (id : RoleId) (edit : RoleEdit) :
    Alike R (updateRole ⟨g', limits⟩ id edit).run (updateRole ⟨g, limits⟩ id edit).run :=
  (alike_requireMutable limits h id).bind_attempt fun _ => h.updateRole id _

theorem alike_deleteRole (h : AlikeGateways R creating g' g) (id : RoleId) :
    Alike R (deleteRole ⟨g', limits⟩ id).run (deleteRole ⟨g, limits⟩ id).run :=
  (alike_requireMutable limits h id).bind_attempt fun _ => h.deleteRole id

/-! ## Members -/

theorem alike_members (h : AlikeGateways R creating g' g) (role : RoleId) :
    Alike R (members ⟨g', limits⟩ role).run (members ⟨g, limits⟩ role).run :=
  (h.listMembers role).bind_attempt fun _ => .pure _

theorem alike_memberIds (h : AlikeGateways R creating g' g) (role : RoleId) :
    Alike R (memberIds ⟨g', limits⟩ role).run (memberIds ⟨g, limits⟩ role).run :=
  (h.listMembers role).bind_attempt fun _ => .pure _

/-- A plan depends on the members that are read and on nothing else of a gateway. -/
theorem alike_planMembers (h : AlikeGateways R creating g' g) (role : RoleId) (desired : List UserId) :
    Alike R (planMembers ⟨g', limits⟩ role desired).run
      (planMembers ⟨g, limits⟩ role desired).run :=
  (alike_memberIds limits h role).bind_attempt fun _ => .pure _

/-- The batch of a plan is the gateway's own, and nothing is called for an empty plan. -/
theorem alike_execute (h : AlikeGateways R creating g' g) (plan : Plan) :
    Alike R (execute ⟨g', limits⟩ plan) (execute ⟨g, limits⟩ plan) := by
  unfold execute
  split
  next => exact .pure _
  next => exact (h.changeAll _ _ _).bind fun _ => .pure _

theorem alike_executeAll (h : AlikeGateways R creating g' g) (plan : Plan) :
    Alike R (executeAll ⟨g', limits⟩ plan).run (executeAll ⟨g, limits⟩ plan).run :=
  (alike_execute limits h plan).lift.bind_attempt fun _ => .ofExcept _

/-- Planning, carrying out and reading the members again come out the same one by one. -/
theorem alike_saveMembers (h : AlikeGateways R creating g' g) (role : RoleId) (desired : List UserId) :
    Alike R (saveMembers ⟨g', limits⟩ role desired).run
      (saveMembers ⟨g, limits⟩ role desired).run := by
  refine ((alike_planMembers limits h role desired).adapt BatchFault.call).bind_attempt fun plan => ?_
  refine (alike_executeAll limits h plan).bind_attempt fun report => ?_
  exact (alike_memberIds limits h role).lift.bind_attempt fun _ => .pure _

/-! ## Whatever is asked -/

/-- Any task of an administrator comes out alike, if the gateways create roles alike or the task
creates none. -/
theorem Task.alike (t : Task) (h : AlikeGateways R t.creates g' g) :
    Alike R (t.perform ⟨g', limits⟩).run (t.perform ⟨g, limits⟩).run := by
  have hended : ∀ {α : Type} {x' : ExceptT BatchFault (StateM σ') α}
      {x : ExceptT BatchFault (StateM σ) α}, Alike R x'.run x.run →
        Alike R (ended x').run (ended x).run := fun hx => hx.bind_attempt fun _ => .pure _
  cases t with
  | listRoles => exact hended ((alike_listRoles limits h).adapt _)
  | findRole reference => exact hended ((alike_findRole limits h reference).adapt _)
  | listPermissions => exact hended ((alike_listPermissions limits h).adapt _)
  | listUsers => exact hended ((alike_listUsers limits h).adapt _)
  | createRole draft => exact hended ((alike_createRole limits h draft).adapt _)
  | updateRole id edit => exact hended ((alike_updateRole limits h id edit).adapt _)
  | deleteRole id => exact hended ((alike_deleteRole limits h id).adapt _)
  | members role => exact hended ((alike_members limits h role).adapt _)
  | planMembers role desired => exact hended ((alike_planMembers limits h role desired).adapt _)
  | saveMembers role desired => exact hended (alike_saveMembers limits h role desired)
  | startSave role desired => exact hended (alike_saveMembers limits h role desired.toList)
  | retry report => exact hended (alike_executeAll limits h report.retryPlan)
  | execute plan => exact hended (alike_execute limits h plan).lift

end Alike

end Administrator

namespace Command

open Administrator

/-- Whether a command can create a role. -/
def creates : Command → Bool
  | .createRole .. => true
  | _ => false

variable {g' : Gateway (StateM σ')} {g : Gateway (StateM σ)} (limits : Limits)

/-- What a command prints depends on what its calls answer, and on nothing else. -/
theorem alike_replaceMembers (h : AlikeGateways R creating g' g) (r : Role) (desired : List UserId) :
    Alike R (replaceMembers ⟨g', limits⟩ r desired).run
      (replaceMembers ⟨g, limits⟩ r desired).run :=
  (alike_saveMembers limits h r.id _).lift.bind_attempt fun _ => .ofExcept _

/-- Any command comes out alike, with all the lines it prints. -/
theorem alike_run (c : Command) (h : AlikeGateways R c.creates g' g) :
    Alike R (c.run ⟨g', limits⟩).run (c.run ⟨g, limits⟩).run := by
  cases c with
  | roles => exact (alike_listRoles limits h).bind_attempt fun _ => .pure _
  | permissions => exact (alike_listPermissions limits h).bind_attempt fun _ => .pure _
  | users => exact (alike_listUsers limits h).bind_attempt fun _ => .pure _
  | members role =>
    refine (alike_findRole limits h role).bind_attempt fun r => ?_
    exact (alike_members limits h r.id).bind_attempt fun _ => .pure _
  | sync role dryRun desired =>
    refine (alike_findRole limits h role).bind_attempt fun r => ?_
    cases dryRun with
    | true => exact (alike_planMembers limits h r.id desired).bind_attempt fun _ => .pure _
    | false => exact alike_replaceMembers limits h r desired
  | createRole name requested =>
    exact (alike_createRole limits h _).bind_attempt fun _ => .pure _
  | deleteRole role =>
    refine (alike_findRole limits h role).bind_attempt fun r => ?_
    exact (alike_deleteRole limits h r.id).bind_attempt fun _ => .pure _

end Command

end Rolebook
