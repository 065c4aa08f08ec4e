import Rolebook.Http.Backend

/-!
# Calls to a backend

A call fails unless its request is answered with success. Two failures of membership calls are none:
a user who gets a role may hold it already, and a user who loses one may not hold it, as long as the
role exists. `Http.gateway` is the gateway of a backend; how a batch of membership calls is carried
out is left to a `Dispatch`.
-/

namespace Rolebook.Http

variable {m : Type → Type} [Monad m]

/-- A successful answer: where it comes from, and its body. -/
structure Success where
  url : Url
  body : Option (List UInt8)

/-- What becomes of a request that is sent. -/
def settle (activity : String) (url : Url) : Reply → Except Fault Success
  | .answer status body =>
    if isSuccess status then .ok ⟨url, body⟩
    else .error (.refused activity status (Text.trim (Payload.complaint body)))
  | .dropped => .error (.unanswered activity url.text)
  | .late => .error (.lateAnswer activity url.text)

/-- Sends the request of a call. -/
def exchange (send : Transport m) (b : Backend) (c : Gateway.Call) : Attempt m Success := do
  let request ← liftExcept (b.request c)
  let reply ← ExceptT.lift (send request)
  liftExcept (settle c.activity request.url reply)

/-- The value of a body. -/
def decode {α : Type} (read : Json → Option α) (activity : String) (success : Success) :
    Except Fault α :=
  match (success.body.bind Json.ofBytes?).bind read with
  | some a => .ok a
  | none => .error (.illegibleAnswer activity success.url.text)

/-- Sends the request of a call and reads the answer. -/
def fetch {α : Type} (send : Transport m) (b : Backend) (read : Json → Option α)
    (c : Gateway.Call) : Attempt m α := do
  let success ← exchange send b c
  liftExcept (decode read c.activity success)

/-- Sends the request of a call that is answered with a role. -/
def fetchRole (send : Transport m) (b : Backend) (c : Gateway.Call) : Attempt m Role := do
  let input ← fetch send b Payload.roleInput? c
  liftExcept (Role.ofInput input)

/-- All roles. A single one with a blank name makes the call fail. -/
def listRoles (send : Transport m) (b : Backend) : Attempt m (List Role) := do
  let inputs ← fetch send b (Payload.list? Payload.roleInput?) .listRoles
  liftExcept (inputs.mapM Role.ofInput)

/-- One change to a role's members. -/
def change (send : Transport m) (b : Backend) (id : RoleId) (o : Operation) : Attempt m Unit := do
  match o, ← ExceptT.lift (exchange send b (.change id o)).run with
  | _, .ok _ => return
  | .assign _, .error fault => if fault.kind = .conflict then return else throw fault
  | .unassign _, .error fault =>
    if fault.kind = .notFound then
      -- what is missing may be the role itself
      let _ ← fetchRole send b (.getRole id)
    else throw fault

/-- A way to carry out a batch of membership calls. -/
abbrev Dispatch (m : Type → Type) :=
  (RoleId → Operation → Attempt m Unit) → Limits → RoleId → List Operation → m (List Outcome)

/-- One call after the other, however long each takes. -/
def inTurn : Dispatch m := fun call _ id operations =>
  operations.mapM fun o => return ⟨o, ← (call id o).run⟩

/-- The gateway of a backend. -/
def gateway (send : Transport m) (dispatch : Dispatch m) (b : Backend) : Gateway m where
  listRoles := listRoles send b
  getRole id := fetchRole send b (.getRole id)
  createRole d := fetchRole send b (.createRole d)
  updateRole id e := fetchRole send b (.updateRole id e)
  deleteRole id := do let _ ← exchange send b (.deleteRole id)
  listPermissions := fetch send b (Payload.list? Payload.permission?) .listPermissions
  listUsers := fetch send b (Payload.list? Payload.user?) .listUsers
  listMembers id := fetch send b (Payload.list? Payload.user?) (.members id)
  change := change send b
  changeAll := dispatch (change send b)

end Rolebook.Http
