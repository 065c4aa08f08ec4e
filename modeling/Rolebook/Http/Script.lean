import Rolebook.Http.Calls
import Rolebook.Membership.FanOut

/-!
# Scripted servers

A server that answers from a script, so that a gateway can be watched at work. Each kind of request
has a list of replies: every request of the kind takes the next one, and the last one is never used
up. A request that the script does not know is answered with 404. Time passes only while a request
gets no answer.
-/

namespace Rolebook.Http

/-- A reply in a script. -/
inductive Line where
  /-- An answer. -/
  | answer (status : Nat) (body : List UInt8)
  /-- An answer whose body breaks off. -/
  | truncated (status : Nat)
  /-- The end of the connection. -/
  | drop
  /-- Nothing. -/
  | stall
  deriving DecidableEq

/-- A server that goes by a script. -/
structure Script where
  /-- The replies to each kind of request: those to its method and target. -/
  replies : List (String × List Line)
  /-- How many milliseconds a request waits for its answer. -/
  patience : Nat
  clock : Nat := 0
  /-- The requests so far, the last one first. -/
  requests : List Request := []

namespace Script

/-- The kind that a request is of. -/
def kind (r : Request) : String := s!"{r.method.text} {r.url.target}"

/-- The next reply for a kind of request, and the replies that are left. -/
def next (kind : String) : List (String × List Line) → Line × List (String × List Line)
  | [] => (.answer 404 [], [])
  | (k, lines) :: rest =>
    if k = kind then
      match lines with
      | [] => (.answer 404 [], (k, lines) :: rest)
      | [line] => (line, (k, lines) :: rest)
      | line :: more => (line, (k, more) :: rest)
    else ((next kind rest).1, (k, lines) :: (next kind rest).2)

/-- Whether an answer with this status has no body. -/
def isBodiless (status : Nat) : Bool := status = 204 || status = 304

/-- What comes of a reply in a script. -/
def Line.reply : Line → Reply
  | .answer status body => .answer status (some (if isBodiless status then [] else body))
  | .truncated status => .answer status (if isBodiless status then some [] else none)
  | .drop => .dropped
  | .stall => .late

/-- Sends a request to the server. -/
def send : Transport (StateM Script) := fun r s =>
  let (line, replies) := next (kind r) s.replies
  let waited := if line = .stall then s.patience else 0
  (Line.reply line, { s with
    replies := replies
    clock := s.clock + waited
    requests := r :: s.requests })

/-- The start of a call in a batch: all its requests are sent, and it ends when the last one is
answered. -/
def begin (call : RoleId → Operation → Attempt (StateM Script) Unit) (id : RoleId) (_ : Nat)
    (o : Operation) : StateM Script (Pending Script) := fun s =>
  let called := (call id o).run.run s
  -- the clock of the batch, and not this one, runs while calls overlap
  (⟨called.2.clock - s.clock, pure called.1⟩, { called.2 with clock := s.clock })

/-- Carries out a batch within its limits. -/
def fanOut : Dispatch (StateM Script) := fun call =>
  FanOut.changeAll (begin call) fun time s => { s with clock := s.clock + time }

/-- A server that cannot be reached. -/
def unreachable : Transport (StateM Script) := fun _ s => (.dropped, s)

end Script

end Rolebook.Http
