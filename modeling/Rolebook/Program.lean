import Rolebook.Command.Run
import Rolebook.Command.Usage
import Rolebook.Http.Calls
import Rolebook.Settings.Basic
import Rolebook.Text.Quoted

/-!
# The program

A run reads the command line, then the settings, and only then does anything. What was asked for
decides what is printed: a command line that cannot be read is answered with the usage, settings
that cannot be read with the quoted fault, a command that fails with the fault. The exit code says
whether all, part or none of it was done.
-/

namespace Rolebook

/-- How a run ends: its exit code and what it printed. -/
structure Ending where
  code : Nat
  output : String
  errors : String
  deriving DecidableEq

namespace Ending

/-- Lines as they are printed. -/
def printed (lines : List String) : String :=
  String.join (lines.map (· ++ "\n"))

/-- The exit code of a status. -/
def codeOf : Status → Nat
  | .succeeded => 0
  | .partiallySucceeded => 2
  | .failed => 1

/-- The end of a run whose command line cannot be read. -/
def misused (fault : Fault) : Ending :=
  ⟨1, "", printed [fault.message, "", Command.usage]⟩

/-- The name of a kind of fault where it is quoted. -/
def kindName : FaultKind → String
  | .validation => "Validation"
  | .notFound => "NotFound"
  | .conflict => "Conflict"
  | .unauthorized => "Unauthorized"
  | .forbidden => "Forbidden"
  | .timeout => "Timeout"
  | .internal => "Internal"

/-- The end of a run whose settings cannot be read. -/
def misconfigured (fault : Fault) : Ending :=
  ⟨1, "", printed [s!"Error: {kindName fault.kind}({Text.Quoted.quote fault.detail})"]⟩

/-- The end of a run whose command was carried out. -/
def finished : Except Fault Output → Ending
  | .ok output => ⟨codeOf output.status, printed output.lines, ""⟩
  | .error fault => ⟨1, "", printed [fault.message]⟩

end Ending

namespace Program

/-- What a run is to do, or how it ends before it does anything. -/
def prepare (arguments : List String) (lookup : Settings.Lookup) :
    Except Ending (Command × Settings) :=
  match Command.parse arguments with
  | .error fault => .error (.misused fault)
  | .ok command =>
    match Settings.read lookup with
    | .error fault => .error (.misconfigured fault)
    | .ok settings => .ok (command, settings)

/-- The backend of settings. -/
def backend (s : Settings) : Http.Backend where
  baseUrl := s.baseUrl
  token := s.token.map (·.text)
  tenant := s.tenant

variable {m : Type → Type} [Monad m]

/-- Carries out a command with settings. -/
def perform (send : Http.Transport m) (dispatch : Http.Dispatch m) (command : Command)
    (s : Settings) : m Ending := do
  let administrator := Administrator.mk (Http.gateway send dispatch (backend s)) s.limits
  return .finished (← (command.run administrator).run)

/-- A run. -/
def run (send : Http.Transport m) (dispatch : Http.Dispatch m) (arguments : List String)
    (lookup : Settings.Lookup) : m Ending :=
  match prepare arguments lookup with
  | .error ending => pure ending
  | .ok (command, settings) => perform send dispatch command settings

end Program

end Rolebook
