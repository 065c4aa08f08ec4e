import Rolebook.Command.Basic
import Rolebook.Command.Output

/-!
# Running commands

A command is carried out by an administrator. A `sync` in which something failed is answered like
any other, with the status of the batch; only a call outside the batch makes the command itself
fail.
-/

namespace Rolebook.Command

variable {m : Type → Type} [Monad m]

/-- Makes the members of a role those in a list. -/
def replaceMembers (a : Administrator m) (r : Role) (desired : List UserId) : Attempt m Output := do
  let saved ← ExceptT.lift (a.saveMembers r.id (SortedSet.ofList desired).toList).run
  liftExcept (Output.ofSave r saved)

/-- Carries out a command. -/
def run (a : Administrator m) : Command → Attempt m Output
  | .roles => do return .succeeded ((← a.listRoles).map Output.roleLine)
  | .permissions => do return .succeeded ((← a.listPermissions).map Output.permissionLine)
  | .users => do return .succeeded ((← a.listUsers).map Output.userLine)
  | .members role => do
    let r ← a.findRole role
    return .succeeded ((← a.members r.id).map Output.memberLine)
  | .sync role dryRun desired => do
    let r ← a.findRole role
    if dryRun then return .succeeded (Output.planLines r (← a.planMembers r.id desired))
    else replaceMembers a r desired
  | .createRole name requested => do
    let r ← a.createRole { name := name, permissions := requested }
    return .succeeded [Output.roleChangeLine "created" r]
  | .deleteRole role => do
    let r ← a.findRole role
    a.deleteRole r.id
    return .succeeded [Output.roleChangeLine "deleted" r]

end Rolebook.Command
