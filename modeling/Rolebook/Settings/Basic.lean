import Rolebook.Gateway
import Rolebook.Text.Unsigned
import Rolebook.Url.Reader

/-!
# Settings

Settings are looked up by name. A value is trimmed first, and a blank one counts as missing; then
only the base URL and the two limits have something that stands in for them. All values are read
before a limit of zero is complained about.
-/

namespace Rolebook

/-- Where the backend is, who is asking, and how batches are carried out. -/
structure Settings where
  baseUrl : Url
  token : Option NonBlank
  tenant : Option TenantId
  limits : Limits
  timeout_pos : 0 < limits.timeout
  concurrency_pos : 0 < limits.concurrency

namespace Settings

/-- A way to look values up. -/
abbrev Lookup := String → Option String

def baseUrlName : String := "KEEPER_API_BASE_URL"
def tokenName : String := "KEEPER_API_TOKEN"
def tenantName : String := "KEEPER_TENANT_ID"
def timeoutName : String := "KEEPER_CALL_TIMEOUT_MS"
def concurrencyName : String := "KEEPER_MAX_CONCURRENCY"

/-- The base URL if none is given. -/
def usualBaseUrl : String := "http://127.0.0.1:8080"

/-- The largest limit. -/
def largestLimit : Nat := UInt64.size - 1

/-- The value of a name. -/
def value (lookup : Lookup) (name : String) : Option NonBlank :=
  NonBlank.ofOption (lookup name)

/-- The base URL that a text spells. -/
def readBaseUrl (text : String) : Except Fault Url :=
  match Url.read text with
  | .error malformed => .error (.badSetting baseUrlName text malformed.message)
  | .ok url =>
    if url.isWeb then .ok url else .error (.unsupportedScheme baseUrlName url.scheme)

/-- The tenant, if there is one. -/
def readTenant : Option NonBlank → Except Fault (Option TenantId)
  | some text => (Id.read text.text).map some
  | none => .ok none

/-- The limit of a name, or the usual one. -/
def readLimit (name : String) (usual : Nat) : Option NonBlank → Except Fault Nat
  | some text =>
    match Text.Unsigned.read largestLimit text.text.toList with
    | .ok limit => .ok limit
    | .error malformed => .error (.badSetting name text.text malformed.message)
  | none => .ok usual

/-- The settings that a lookup finds. -/
def read (lookup : Lookup) : Except Fault Settings := do
  let baseUrl ← readBaseUrl ((value lookup baseUrlName).elim usualBaseUrl (·.text))
  let tenant ← readTenant (value lookup tenantName)
  let timeout ← readLimit timeoutName 10000 (value lookup timeoutName)
  let concurrency ← readLimit concurrencyName 8 (value lookup concurrencyName)
  -- all values are readable: only now is a zero complained about
  if ht : 0 < timeout then
    if hc : 0 < concurrency then
      return ⟨baseUrl, value lookup tokenName, tenant, ⟨timeout, concurrency⟩, ht, hc⟩
    else throw (.zeroSetting concurrencyName)
  else throw (.zeroSetting timeoutName)

/-- Accepted limits are applied as they are. -/
theorem effective_limits (s : Settings) : s.limits.effective = s.limits := by
  have h : max 1 s.limits.concurrency = s.limits.concurrency :=
    Nat.max_eq_right s.concurrency_pos
  rw [Limits.effective, h]

end Settings

end Rolebook
