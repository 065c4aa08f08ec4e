import Rolebook.Administrator.Roles

/-!
# Administering members

Members are saved as a set: the plan that leads from the members read to the members wanted is
carried out operation by operation, and the members are read again. A save that partly fails is
still a save, and what failed can be tried again; a save in which everything failed is not.
-/

namespace Rolebook

/-- What a save of members did. -/
structure Saved where
  /-- The changes from the members read before. -/
  plan : Plan
  /-- What became of each change. -/
  report : Report
  /-- The members read afterwards, unless that failed. -/
  confirmed : Option (SortedSet UserId)
  deriving DecidableEq

namespace Administrator

variable {m : Type → Type} [Monad m]

/-- The users who hold a role, by login name. -/
def members (a : Administrator m) (role : RoleId) : Attempt m (List User) := do
  let users ← a.gateway.listMembers role
  return users.mergeSort fun u v => Text.atMost u.username v.username

/-- The ids of the users who hold a role. -/
def memberIds (a : Administrator m) (role : RoleId) : Attempt m (SortedSet UserId) := do
  let users ← a.gateway.listMembers role
  return .ofList (users.map (·.id))

/-- The changes that a save would make. -/
def planMembers (a : Administrator m) (role : RoleId) (desired : List UserId) :
    Attempt m Plan := do
  let current ← a.memberIds role
  return .compute role current.toList desired

/-- Carries out a plan. Nothing is called for an empty one. -/
def execute (a : Administrator m) (plan : Plan) : m Report :=
  if plan.isEmpty then return .empty plan.role
  else do
    let outcomes ← a.gateway.changeAll a.limits.effective plan.role plan.operations
    return .ofOutcomes plan.role outcomes

/-- Carries out the plan from one set of members to another. -/
def reconcile (a : Administrator m) (role : RoleId) (current desired : List UserId) : m Report :=
  a.execute (.compute role current desired)

/-- Carries out a plan, and fails if everything in it failed. -/
def executeAll (a : Administrator m) (plan : Plan) : ExceptT BatchFault m Report := do
  let report ← ExceptT.lift (a.execute plan)
  liftExcept report.result

/-- Makes the members of a role those in a list. -/
def saveMembers (a : Administrator m) (role : RoleId) (desired : List UserId) :
    ExceptT BatchFault m Saved := do
  let plan ← (a.planMembers role desired).adapt BatchFault.call
  let report ← a.executeAll plan
  let confirmed ← ExceptT.lift (a.memberIds role).run
  return ⟨plan, report, confirmed.toOption⟩

/-- A save that goes on by itself once it is started; this is its end. -/
def startSave (a : Administrator m) (role : RoleId) (desired : SortedSet UserId) :
    ExceptT BatchFault m Saved :=
  a.saveMembers role desired.toList

/-- Tries again what failed. -/
def retry (a : Administrator m) (report : Report) : ExceptT BatchFault m Report :=
  a.executeAll report.retryPlan

end Administrator

end Rolebook
