import Rolebook.Membership.Operation
import Rolebook.Text.Blank

/-!
# Faults

Everything that can go wrong, by cause. `Fault.kind` sorts the causes into the seven kinds that
callers tell apart, and `Fault.detail` gives the words.
-/

namespace Rolebook

/-- What callers tell apart. -/
inductive FaultKind where
  /-- Invalid input. -/
  | validation
  /-- Something named does not exist. -/
  | notFound
  /-- The change clashes with what is there. -/
  | conflict
  /-- The caller is not known to the backend. -/
  | unauthorized
  /-- The caller is known, and not allowed. -/
  | forbidden
  /-- A call did not end in time. -/
  | timeout
  /-- Anything else. -/
  | internal
  deriving DecidableEq

/-- The words a message of this kind starts with. -/
def FaultKind.label : FaultKind → String
  | validation => "validation error"
  | notFound => "not found"
  | conflict => "conflict"
  | unauthorized => "unauthorized"
  | forbidden => "forbidden"
  | timeout => "timeout"
  | internal => "internal error"

/-- A cause of failure. -/
inductive Fault where
  /-- A text that must not be blank is. -/
  | blank
  /-- A text is no id. -/
  | malformedId (kind : IdKind) (text : String) (reason : Uuid.Malformed)
  /-- A text names no action. -/
  | unknownAction (text : String)
  /-- A resource category is blank. -/
  | emptyCategory
  /-- A resource category holds a character that none may hold. -/
  | categoryCharacter (category : String) (character : Char)
  /-- A system role is to be changed. -/
  | systemRole (name : String)
  /-- No role has this id. -/
  | noRole (id : RoleId)
  /-- No role has this name. -/
  | noRoleNamed (name : String)
  /-- Another role has this name. -/
  | nameTaken (name : String)
  /-- No permission has this id. -/
  | unknownPermission (id : PermissionId)
  /-- No user has this id. -/
  | noUser (id : UserId)
  /-- Calls for this user are made to fail. -/
  | injected (user : UserId)
  /-- A membership call took more than `limit` milliseconds. -/
  | overdue (operation : Operation) (role : RoleId) (limit : Nat)
  /-- A command line without a command. -/
  | missingCommand
  /-- A command line with a command that does not exist. -/
  | unknownCommand (name : String)
  /-- A command that takes no arguments got some. -/
  | unexpectedArguments (command : String) (arguments : List String)
  /-- A command that takes one role got none, a blank one, or more. -/
  | oneRoleExpected (command : String)
  /-- `sync` got no role, or a blank one. -/
  | syncRoleExpected
  /-- `create-role` got no name. -/
  | nameExpected
  /-- A setting cannot be read. -/
  | badSetting (name value reason : String)
  /-- A setting is a URL that is not one of the web. -/
  | unsupportedScheme (name scheme : String)
  /-- A setting is zero. -/
  | zeroSetting (name : String)
  /-- A base URL has no path that could be extended. -/
  | pathlessUrl (url : String)
  /-- A request cannot be put together. -/
  | unsendable (activity reason : String)
  /-- A request got no answer. -/
  | unanswered (activity url : String)
  /-- A request got no answer in time. -/
  | lateAnswer (activity url : String)
  /-- A request was answered with a status that is not a success. -/
  | refused (activity : String) (status : Nat) (message : String)
  /-- A request was answered with a success whose body cannot be read. -/
  | illegibleAnswer (activity url : String)
  /-- A backend reports a failure of its own. -/
  | reported (kind : FaultKind) (detail : String)
  deriving DecidableEq

namespace Fault

/-- The kind of fault that a status other than a success stands for. -/
def kindOfStatus (status : Nat) : FaultKind :=
  if status = 400 ∨ status = 422 then .validation
  else if status = 401 then .unauthorized
  else if status = 403 then .forbidden
  else if status = 404 then .notFound
  else if status = 409 then .conflict
  else if status = 408 ∨ status = 504 then .timeout
  else .internal

/-- The kind of a fault. -/
def kind : Fault → FaultKind
  | blank | malformedId .. | unknownAction _ | emptyCategory | categoryCharacter .. => .validation
  | systemRole _ => .forbidden
  | noRole _ | noRoleNamed _ | noUser _ => .notFound
  | nameTaken _ => .conflict
  | unknownPermission _ => .validation
  | injected _ => .internal
  | overdue .. => .timeout
  | missingCommand | unknownCommand _ | unexpectedArguments .. | oneRoleExpected _
  | syncRoleExpected | nameExpected => .validation
  | badSetting .. | unsupportedScheme .. | zeroSetting _ => .validation
  | pathlessUrl _ => .validation
  | unsendable .. | unanswered .. | illegibleAnswer .. => .internal
  | lateAnswer .. => .timeout
  | refused _ status _ => kindOfStatus status
  | reported kind _ => kind

/-- A refusal in words: the status, and the message if there is one. `message` is trimmed. -/
def refusal (activity : String) (status : Nat) (message : String) : String :=
  if message = "" then s!"{activity} returned status {status}"
  else s!"{activity} returned status {status}: {message}"

/-- A fault in words. -/
def detail : Fault → String
  | blank => "value must not be empty or whitespace"
  | malformedId kind text reason => s!"invalid {kind.label} '{text}': {reason.message}"
  | unknownAction text => s!"unknown permission action '{text}'"
  | emptyCategory => "resource category must not be empty"
  | categoryCharacter category character =>
    s!"resource category '{category}' contains invalid character '{character}'"
  | systemRole name => s!"role '{name}' is a system role and cannot be modified"
  | noRole id => s!"role '{id}' does not exist"
  | noRoleNamed name => s!"role '{name}' does not exist"
  | nameTaken name => s!"role '{name}' already exists"
  | unknownPermission id => s!"unknown permission '{id}'"
  | noUser id => s!"user '{id}' does not exist"
  | injected user => s!"injected failure for user '{user}'"
  | overdue operation role limit =>
    s!"{operation.verb} of user '{operation.user}' on role '{role}' exceeded {limit} ms"
  | missingCommand => "missing command"
  | unknownCommand name => s!"unknown command '{name}'"
  | unexpectedArguments command arguments =>
    let given := " ".intercalate arguments
    s!"'{command}' takes no arguments, got '{given}'"
  | oneRoleExpected command => s!"'{command}' expects exactly one role"
  | syncRoleExpected => "'sync' expects a role"
  | nameExpected => "'create-role' expects a name"
  | badSetting name value reason => s!"invalid {name} value '{value}': {reason}"
  | unsupportedScheme name scheme => s!"{name} must use http or https, got '{scheme}'"
  | zeroSetting name => s!"{name} must be greater than zero"
  | pathlessUrl url => s!"base url '{url}' cannot carry a path"
  | unsendable activity reason => s!"failed to call backend for {activity}: {reason}"
  | unanswered activity url =>
    s!"failed to call backend for {activity}: error sending request for url ({url})"
  | lateAnswer activity url => s!"{activity} timed out: error sending request for url ({url})"
  | refused activity status message => refusal activity status message
  | illegibleAnswer activity url =>
    s!"failed to parse backend response for {activity}: error decoding response body for url ({url})"
  | reported _ detail => detail

/-- The kind and the words. -/
def message (f : Fault) : String := s!"{f.kind.label}: {f.detail}"

end Fault

/-- The id that a text spells, white space around it dropped. -/
def Id.read {kind : IdKind} (s : String) : Except Fault (Id kind) :=
  match Uuid.read (Text.trim s) with
  | .ok uuid => .ok ⟨uuid⟩
  | .error reason => .error (.malformedId kind s reason)

/-- `s` trimmed, unless it is blank. -/
def NonBlank.read (s : String) : Except Fault NonBlank :=
  match NonBlank.ofText? s with
  | some name => .ok name
  | none => .error .blank

end Rolebook
