import Rolebook.Json.Basic
import Rolebook.Url.Basic

/-!
# HTTP messages

What is asked of a server and what comes back. How a request gets to its server, and the answer
back, is left to a `Transport`.
-/

namespace Rolebook.Http

/-- The methods that are used. -/
inductive Method where
  | get
  | post
  | put
  | delete
  deriving DecidableEq

/-- A method as it is written. -/
def Method.text : Method → String
  | get => "GET"
  | post => "POST"
  | put => "PUT"
  | delete => "DELETE"

/-- A request. -/
structure Request where
  method : Method
  url : Url
  /-- The headers that say who is asking, by their names in small letters. -/
  headers : List (String × String)
  body : Option Json

/-- The first value of a header. -/
def Request.header? (r : Request) (name : String) : Option String :=
  r.headers.lookup name

/-- What comes of a request. The headers of an answer are left out, since no call looks at them; one
that declares a character set would matter to the text of an error (`Payload.complaint`). -/
inductive Reply where
  /-- A status and a body; none, if the body breaks off or does not come in time. -/
  | answer (status : Nat) (body : Option (List UInt8))
  /-- No connection, or its end before there is an answer. -/
  | dropped
  /-- No answer within the time that one may take. -/
  | late
  deriving DecidableEq

/-- A way to send requests. -/
abbrev Transport (m : Type → Type) := Request → m Reply

/-- Whether a status means success. -/
def isSuccess (status : Nat) : Bool := 200 ≤ status && status ≤ 299

end Rolebook.Http
