import Rolebook.Url.Basic

/-!
# Reading URLs

A URL is read the way a browser reads it: leniently, and into a normal form. Scheme and host are put
in small letters, the usual port is dropped, backslashes count as slashes, `.` and `..` segments are
carried out, and what cannot stand in a URL is percent-encoded. Only a missing scheme, a bad host
and a bad port make a text unreadable.

Taken for granted of the library that reads URLs: it follows the URL standard step by step, with the
same words for what is unreadable, and internationalized names are mapped by the tables of
`Url.Domain`. No theorem looks into this reader: what is proved of a base URL is proved of every
`Url`, and of settings whatever URLs are read.
-/

namespace Rolebook.Url

/-- How a scheme's URLs are read. -/
inductive Family where
  /-- There is always a host, whatever slashes come before it. -/
  | web
  /-- A host may be missing. -/
  | file
  /-- Anything else. -/
  | general
  deriving DecidableEq

namespace Family

/-- The family of a scheme. -/
def ofScheme (scheme : String) : Family :=
  if scheme ∈ ["http", "https", "ws", "wss", "ftp"] then .web
  else if scheme = "file" then .file
  else .general

/-- Whether a character separates the segments of a path. -/
def isSlash (f : Family) (c : Char) : Bool :=
  c = '/' || (c = '\\' && f ≠ .general)

/-- Whether an authority ends before a character. -/
def endsAuthority (f : Family) (c : Char) : Bool :=
  f.isSlash c || c = '?' || c = '#'

end Family

/-- The usual port of a scheme. -/
def usualPort? (scheme : String) : Option Nat :=
  if scheme = "http" ∨ scheme = "ws" then some 80
  else if scheme = "https" ∨ scheme = "wss" then some 443
  else if scheme = "ftp" then some 21
  else none

/-! ## Encoding -/

/-- The characters that are encoded in a fragment. -/
def fragmentSet : List Char := [' ', '"', '<', '>', '`']

/-- The characters that are encoded in a path. -/
def pathSet : List Char := fragmentSet ++ ['#', '?', '\x7b', '\x7d']

/-- The characters that are encoded in names and passwords. -/
def credentialsSet : List Char := pathSet ++ ['/', ':', ';', '=', '@', '[', '\\', ']', '^', '|']

/-- The characters that are encoded in a query. -/
def querySet (f : Family) : List Char :=
  [' ', '"', '#', '<', '>'] ++ if f = .general then [] else ['\'']

/-- A part encoded. -/
def encodeText (set cs : List Char) : String :=
  String.ofList (Text.Percent.encode set cs)

/-! ## Parts -/

/-- The characters that count: neither controls and spaces at the ends, nor tabs and line breaks. -/
def significant (s : String) : List Char :=
  let inner := s.toList.dropWhile (· ≤ ' ')
  (inner.reverse.dropWhile (· ≤ ' ')).reverse.filter fun c => !(['\t', '\n', '\r'].contains c)

/-- Whether a scheme can hold a character after its first. -/
def isSchemeChar (c : Char) : Bool :=
  c.isAlphanum || c = '+' || c = '-' || c = '.'

/-- The scheme in small letters, and what follows its colon. -/
def scheme? (cs : List Char) : Option (String × List Char) :=
  match cs.span isSchemeChar with
  | (c :: name, ':' :: rest) =>
    if c.isAlpha then some (String.ofList ((c :: name).map Char.toLower), rest) else none
  | _ => none

/-- What stands before the last `@` of an authority, if there is one, and what stands after it. -/
def splitCredentials (f : Family) (cs : List Char) : Option (List Char) × List Char :=
  let whole := cs.takeWhile fun c => !f.endsAuthority c
  let afterAt := (whole.reverse.takeWhile (· ≠ '@')).length
  if afterAt = whole.length then (none, cs)
  else (some (whole.take (whole.length - afterAt - 1)), cs.drop (whole.length - afterAt))

/-- The name and the password before an `@`; neither may be there. -/
def readCredentials (cs : List Char) : Option Credentials :=
  let username := cs.takeWhile (· ≠ ':')
  let password := cs.drop (username.length + 1)
  if username = [] ∧ password = [] then none
  else some {
    username := encodeText credentialsSet username
    password := if password = [] then none else some (encodeText credentialsSet password) }

/-- The characters of a host, and the rest. Colons in brackets belong to the host. -/
def spanHost (f : Family) (bracketed : Bool) : List Char → List Char × List Char
  | [] => ([], [])
  | c :: cs =>
    if f.endsAuthority c || (c = ':' && !bracketed) then ([], c :: cs)
    else
      let bracketed := if c = '[' then true else if c = ']' then false else bracketed
      ((c :: (spanHost f bracketed cs).1), (spanHost f bracketed cs).2)

/-- The port, unless it is the usual one or missing, and what follows it. -/
def readPort (scheme : String) (cs : List Char) : Except Malformed (Option Nat × List Char) :=
  let digits := cs.takeWhile Text.isDigit
  let rest := cs.dropWhile Text.isDigit
  let port := Text.decimalValue 0 digits
  if 65535 < port then .error .port
  else if rest.head?.all fun c => ['/', '\\', '?', '#'].contains c then
    .ok (if digits = [] ∨ usualPort? scheme = some port then none else some port, rest)
  else .error .port

/-- The port after a host, if there is a colon. -/
def readPortAfter (scheme : String) : List Char → Except Malformed (Option Nat × List Char)
  | ':' :: cs => readPort scheme cs
  | cs => .ok (none, cs)

/-- The authority, and what follows it. -/
def readAuthority (scheme : String) (cs : List Char) : Except Malformed (Authority × List Char) := do
  let f := Family.ofScheme scheme
  let (before, cs) := splitCredentials f cs
  let credentials := before.bind readCredentials
  let (host, cs) := spanHost f false cs
  let hostMissing := f = .web || credentials.isSome || cs.head? = some ':' ||
    (before = some [] && cs ≠ [])
  -- a name, a password or a port needs a host to go with
  if host = [] ∧ hostMissing then throw .emptyHost
  let host ← if f = .general then Host.readVerbatim host else Host.read host
  let (port, cs) ← readPortAfter scheme cs
  return (⟨credentials, host, port⟩, cs)

/-! ## Paths -/

/-- The ways to write a segment that stands for the path itself. -/
def stays : List String := [".", "%2e", "%2E"]

/-- The ways to write a segment that stands for the path without its last segment. -/
def goesUp : List String :=
  ["..", ".%2e", ".%2E", "%2e.", "%2E.", "%2e%2e", "%2e%2E", "%2E%2e", "%2E%2E"]

/-- Whether a segment is a drive letter: a letter and a colon or a bar. -/
def isDrive (segment : String) : Bool :=
  match segment.toList with
  | [letter, mark] => letter.isAlpha && (mark = ':' || mark = '|')
  | _ => false

/-- The segments of a path one level up, which is never above a drive letter. -/
def parent (segments : List String) : List String :=
  if segments.getLast?.any isDrive then segments else segments.dropLast

/-- The segments of a path, after those that have come before. A path that ends in a dot segment
ends in a slash. -/
def addSegments (before : List String) : List String → List String
  | [] => before
  | [last] =>
    if last ∈ goesUp then parent before ++ [""]
    else if last ∈ stays then before ++ [""]
    else before ++ [last]
  | s :: more =>
    if s ∈ goesUp then addSegments (parent before) more
    else if s ∈ stays then addSegments before more
    else addSegments (before ++ [s]) more

/-- The segments that a text spells after its first slash. A file's path does not start with empty
segments. -/
def readSegments (f : Family) (cs : List Char) : Path :=
  let segments := addSegments [] ((Text.split f.isSlash cs).map (encodeText pathSet))
  let kept := if f = .file then segments.dropWhile (· = "") else segments
  .segments (if kept = [] then [""] else kept)

/-- The path after an authority. -/
def readPath (f : Family) : List Char → Path
  | [] => if f = .general then .segments [] else .segments [""]
  | c :: cs => if f.isSlash c then readSegments f cs else readSegments f (c :: cs)

/-- The parts after the path, from where a query or a fragment starts. -/
def readEnd (f : Family) (cs : List Char) : Option String × Option String :=
  let fragment := match cs.dropWhile (· ≠ '#') with
    | _ :: text => some (encodeText fragmentSet text)
    | [] => none
  let query := match cs.takeWhile (· ≠ '#') with
    | _ :: text => some (encodeText (querySet f) text)
    | [] => none
  (query, fragment)

/-- Whether a path ends before a character. -/
def endsPath (c : Char) : Bool := c = '?' || c = '#'

/-- The URL whose path is read by `path` from the front of a text, and whose other parts follow. -/
def assemble (scheme : String) (authority : Option Authority) (path : List Char → Path)
    (cs : List Char) : Url :=
  let (query, fragment) := readEnd (.ofScheme scheme) (cs.dropWhile fun c => !endsPath c)
  let path := path (cs.takeWhile fun c => !endsPath c)
  ⟨scheme, authority, authority.isNone && path.isAmbiguous, path, query, fragment⟩

/-- The host and the path of a file URL. A drive letter in the place of the host belongs to the
path, and the local host needs no name. -/
def readLocal (f : Family) (cs : List Char) : Except Malformed (Authority × List Char) :=
  match cs with
  | a :: b :: rest =>
    if f.isSlash a ∧ f.isSlash b then do
      let host := rest.takeWhile fun c => !f.endsAuthority c
      if host = [] ∨ isDrive (String.ofList host) then return (⟨none, .name "", none⟩, rest)
      let named ← Host.read host
      let kept := if named = .name "localhost" then .name "" else named
      return (⟨none, kept, none⟩, rest.drop host.length)
    else .ok (⟨none, .name "", none⟩, cs)
  | _ => .ok (⟨none, .name "", none⟩, cs)

/-- The URL of a scheme, from what follows the colon. -/
def readAfterScheme (scheme : String) (cs : List Char) : Except Malformed Url := do
  let f := Family.ofScheme scheme
  match f with
  | .web =>
    let (authority, cs) ← readAuthority scheme (cs.dropWhile f.isSlash)
    return assemble scheme (some authority) (readPath f) cs
  | .file =>
    let (authority, cs) ← readLocal f cs
    return assemble scheme (some authority) (readPath f) cs
  | .general =>
    match cs with
    | '/' :: '/' :: cs =>
      let (authority, cs) ← readAuthority scheme cs
      return assemble scheme (some authority) (readPath f) cs
    | '/' :: cs => return assemble scheme none (readSegments f) cs
    | cs => return assemble scheme none (fun text => .rootless (encodeText [] text)) cs

/-- The URL that a text spells. -/
def read (s : String) : Except Malformed Url :=
  match scheme? (significant s) with
  | some (scheme, cs) => readAfterScheme scheme cs
  | none => .error .relative

end Rolebook.Url
