import Rolebook.Url.Host

/-!
# URLs

A URL in its parts, all of them percent-encoded where they have to be. A path is a list of segments,
or a text without structure, as in `mailto:` URLs, to which no segment can be added.
-/

namespace Rolebook

namespace Url

/-- The name and the password in a URL. -/
structure Credentials where
  username : String
  password : Option String
  deriving DecidableEq

/-- The part of a URL that says where a resource is. -/
structure Authority where
  credentials : Option Credentials
  host : Host
  /-- The port, unless it is the usual one. -/
  port : Option Nat
  deriving DecidableEq

/-- A path. -/
inductive Path where
  /-- Segments, with a slash before each of them. -/
  | segments (list : List String)
  /-- A text without structure. -/
  | rootless (text : String)
  deriving DecidableEq

end Url

/-- A URL. -/
structure Url where
  scheme : String
  authority : Option Url.Authority
  /-- Whether a dot stands before the path, which would be taken for an authority without it. -/
  shielded : Bool
  path : Url.Path
  query : Option String
  fragment : Option String
  deriving DecidableEq

namespace Url

/-- Credentials as they are written. -/
def Credentials.text (c : Credentials) : String :=
  match c.password with
  | some password => s!"{c.username}:{password}@"
  | none => s!"{c.username}@"

/-- A port as it is written. -/
def portText : Option Nat → String
  | some port => s!":{port}"
  | none => ""

/-- An authority as it is written. -/
def Authority.text (a : Authority) : String :=
  (a.credentials.elim "" Credentials.text) ++ a.host.text ++ portText a.port

/-- A path as it is written. -/
def Path.text : Path → String
  | segments list => String.join (list.map ("/" ++ ·))
  | rootless text => text

/-- Whether a path starts with two slashes, as an authority does. -/
def Path.isAmbiguous : Path → Bool
  | segments ("" :: _ :: _) => true
  | _ => false

/-- A query as it is written. -/
def queryText (query : Option String) : String :=
  query.elim "" ("?" ++ ·)

/-- What stands before the path. -/
def origin (u : Url) : String :=
  match u.authority with
  | some a => s!"{u.scheme}://{a.text}"
  | none => if u.shielded then s!"{u.scheme}:/." else s!"{u.scheme}:"

/-- The path and the query. -/
def target (u : Url) : String :=
  u.path.text ++ queryText u.query

/-- A URL as it is written. -/
def text (u : Url) : String :=
  u.origin ++ u.target ++ u.fragment.elim "" ("#" ++ ·)

instance : ToString Url := ⟨text⟩

/-- The URL without its fragment. -/
def withoutFragment (u : Url) : Url := { u with fragment := none }

/-- The URL without a name and a password. -/
def withoutCredentials (u : Url) : Url :=
  { u with authority := u.authority.map fun a => { a with credentials := none } }

/-- Whether the URL is one of the web. -/
def isWeb (u : Url) : Bool := u.scheme = "http" || u.scheme = "https"

/-- Whether the URL names a host. -/
def hasHost (u : Url) : Bool := u.authority.any fun a => a.host ≠ .name ""

/-- What is left of a path when segments are put after it: an empty segment at its end gives way to
them, and so does then a path of one empty segment. -/
def stem (list : List String) : List String :=
  let kept := if 2 ≤ list.length ∧ list.getLast? = some "" then list.dropLast else list
  -- one empty segment is the root, which takes no place
  if kept = [""] then [] else kept

/-- The URL with segments put after its path, unless it has no path that can take them. A shield
stays, needed or not. The segments are put there as they are: those of calls are words and ids, in
which nothing is to be encoded and none of which is `.` or `..`. -/
def extend? (u : Url) (more : List String) : Option Url :=
  match u.path with
  | .segments list => some { u with path := .segments (stem list ++ more) }
  | .rootless _ => none

end Url

end Rolebook
