import Rolebook.Http.Message
import Rolebook.Http.Payload
import Rolebook.Text.Base64

/-!
# Requests to a backend

Every call is one request, to a place under `api/v1` of the base URL. The token and the tenant go
with each of them; a name and a password in the base URL are sent as a header and not as part of the
URL. A request that cannot be put together is not sent.

Taken for granted of the client that sends requests: which URLs and headers it takes
(`Backend.isSendable`, `Backend.isHeaderValue`), in which order it notices what it does not take
(`Backend.request`), and that it sends no fragment. Servers that redirect a request are not
considered.
-/

namespace Rolebook

namespace Gateway.Call

/-- What a call does, in words. -/
def activity : Gateway.Call → String
  | listRoles => "list roles"
  | getRole _ => "get role"
  | createRole _ => "create role"
  | updateRole _ _ => "update role"
  | deleteRole _ => "delete role"
  | listPermissions => "list permissions"
  | listUsers => "list users"
  | members _ => "list role members"
  | change _ (.assign _) => "assign role"
  | change _ (.unassign _) => "unassign role"

/-- The method of a call. -/
def method : Gateway.Call → Http.Method
  | listRoles | getRole _ | listPermissions | listUsers | members _ => .get
  | createRole _ | change _ (.assign _) => .post
  | updateRole _ _ => .put
  | deleteRole _ | change _ (.unassign _) => .delete

/-- The place of a call. -/
def place : Gateway.Call → List String
  | listRoles | createRole _ => ["roles"]
  | getRole id | updateRole id _ | deleteRole id => ["roles", id.text]
  | listPermissions => ["permissions"]
  | listUsers => ["users"]
  | members id => ["roles", id.text, "users"]
  | change id o => ["roles", id.text, "users", o.user.text]

/-- What a call sends along. -/
def body : Gateway.Call → Option Json
  | createRole d => some (Http.Payload.ofDraft d)
  | updateRole _ e => some (Http.Payload.ofEdit e)
  | _ => none

end Gateway.Call

namespace Http

/-- Where a backend is and who is asking. -/
structure Backend where
  baseUrl : Url
  token : Option String := none
  tenant : Option TenantId := none

namespace Backend

/-- The name of the header for the token, a name and a password. -/
def authorizationHeader : String := "authorization"

/-- The name of the header for the tenant. -/
def tenantHeader : String := "x-tenant-id"

/-- A percent-encoded text decoded. -/
def decoded? (s : String) : Option String :=
  (Text.Utf8.decode? (Text.Percent.decode s.toList)).map String.ofList

/-- The name and the password that a URL gives. -/
def signIn? (u : Url) : Option (String × Option String) := do
  let credentials ← (← u.authority).credentials
  let username ← decoded? credentials.username
  let password := credentials.password.bind decoded?
  if username = "" ∧ password = none then none else some (username, password)

/-- The value that a name and a password go by. -/
def basic (username : String) (password : Option String) : String :=
  let pair := username ++ ":" ++ password.getD ""
  "Basic " ++ String.ofList (Text.Base64.encode (Text.Utf8.encode pair.toList))

/-- The value that a token goes by. -/
def bearer (token : String) : String := s!"Bearer {token}"

/-- Whether a header can hold a text: there are no controls in it but tabs. -/
def isHeaderValue (s : String) : Bool :=
  s.toList.all fun c => c = '\t' || (0x20 ≤ c.toNat && c.toNat ≠ 0x7F)

/-- The headers of all requests to a URL. -/
def headers (b : Backend) (url : Url) : List (String × String) :=
  (signIn? url).toList.map (fun (name, password) => (authorizationHeader, basic name password)) ++
    b.token.toList.map (fun token => (authorizationHeader, bearer token)) ++
    b.tenant.toList.map fun tenant => (tenantHeader, tenant.text)

/-- The URL of a place. -/
def locate (b : Backend) (place : List String) : Except Fault Url :=
  match b.baseUrl.extend? ("api" :: "v1" :: place) with
  | some url => .ok url
  | none => .error (.pathlessUrl b.baseUrl.text)

/-- The length of the longest URL that a request can be made to, in bytes. -/
def longestUrl : Nat := 65534

/-- The characters that a host may have in a URL but not in a request. -/
def unsendableInHost : List Char := ['"', '`', '\x7b', '\x7d']

/-- Whether a request can be made to a URL: it is one of the web, not too long, and its host has
none of the characters above. -/
def isSendable (u : Url) : Bool :=
  u.isWeb && u.text.utf8ByteSize ≤ longestUrl &&
    u.authority.all fun a => !(a.host.text.toList.any unsendableInHost.contains)

/-- The request of a call. -/
def request (b : Backend) (c : Gateway.Call) : Except Fault Request := do
  let located ← b.locate c.place
  let url := if (signIn? located).isSome then located.withoutCredentials else located
  -- a missing host is noticed before a bad token, and a bad token before any other bad URL
  if !url.hasHost then throw (.unsendable c.activity s!"builder error for url ({url})")
  else if !(b.token.all isHeaderValue) then throw (.unsendable c.activity "builder error")
  else if !isSendable url then throw (.unsendable c.activity s!"builder error for url ({url})")
  else return ⟨c.method, url, b.headers located, c.body⟩

end Backend

end Http

end Rolebook
