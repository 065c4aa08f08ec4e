import Rolebook.Fault

/-!
# Commands

What a command line can ask for, and how its words are read. The first word names the command. The
flag of `sync` may stand anywhere among the words after it; without the flag they are a role and the
users who are to hold it. A role is kept as it is given: whether it is an id or a name is decided
when it is looked up.
-/

namespace Rolebook

/-- What a command line asks for. -/
inductive Command where
  | roles
  | permissions
  | users
  | members (role : String)
  | sync (role : String) (dryRun : Bool) (users : List UserId)
  | createRole (name : String) (permissions : List PermissionId)
  | deleteRole (role : String)
  deriving DecidableEq

namespace Command

/-- The flag that makes `sync` show what it would do. -/
def dryRunFlag : String := "--dry-run"

/-- Whether a word can refer to a role. -/
def refersToRole (word : String) : Bool := Text.trim word ≠ ""

/-- The words after a command that takes none. -/
def readNone (name : String) (command : Command) : List String → Except Fault Command
  | [] => .ok command
  | words => .error (.unexpectedArguments name words)

/-- The words after a command that takes a role. -/
def readRole (name : String) (command : String → Command) : List String → Except Fault Command
  | [role] => if refersToRole role then .ok (command role) else .error (.oneRoleExpected name)
  | _ => .error (.oneRoleExpected name)

/-- What the words after `sync` have said so far. -/
structure SyncWords where
  role : Option String
  dryRun : Bool
  users : List UserId
  deriving DecidableEq

/-- Before the first word. -/
def SyncWords.none : SyncWords := ⟨Option.none, false, []⟩

/-- One more word: the flag wherever it stands, then the role if there is none yet, and else the id
of a user. -/
def SyncWords.read (s : SyncWords) (word : String) : Except Fault SyncWords :=
  if word = dryRunFlag then .ok { s with dryRun := true }
  else if s.role.isNone then .ok { s with role := some word }
  else do
    let user ← Id.read word
    return { s with users := s.users ++ [user] }

/-- The words after `sync`, one after the other. A malformed id ends the reading; whether the role
is blank is asked after the last word. -/
def readSync (words : List String) : Except Fault Command := do
  let said ← words.foldlM SyncWords.read .none
  match said.role.filter refersToRole with
  | some role => return .sync role said.dryRun said.users
  | none => throw .syncRoleExpected

/-- The words after `create-role`. -/
def readCreateRole : List String → Except Fault Command
  | [] => .error .nameExpected
  | name :: rest => do
    let permissions ← rest.mapM Id.read
    return .createRole name permissions

/-- The words of a command line. -/
def parse : List String → Except Fault Command
  | [] => .error .missingCommand
  | name :: words =>
    match name with
    | "roles" => readNone name .roles words
    | "permissions" => readNone name .permissions words
    | "users" => readNone name .users words
    | "members" => readRole name .members words
    | "sync" => readSync words
    | "create-role" => readCreateRole words
    | "delete-role" => readRole name .deleteRole words
    | _ => .error (.unknownCommand name)

end Command

end Rolebook
