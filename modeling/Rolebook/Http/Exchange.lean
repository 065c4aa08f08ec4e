import Rolebook.Http.Message
import Rolebook.Json.Printer
import Rolebook.Text.Blank
import Rolebook.Text.Decimal
import Rolebook.Text.Split
import Rolebook.Text.Utf8

/-!
# Messages on the wire

How a request is written in bytes, and how the answer is read from them, in version 1.1 of the
protocol. One connection carries one request. The answer ends where its length or its last chunk
says, or else with the connection; `read?` says whether it has come to its end with the bytes that
are there, and `expired` what is left of it when time is up.
-/

namespace Rolebook.Http.Exchange

/-! ## Requests -/

/-- The line break of the protocol. -/
def lineBreak : String := "\r\n"

/-- The host and the port that a request names. -/
def hostText (u : Url) : String :=
  u.authority.elim "" fun a => a.host.text ++ Url.portText a.port

/-- The headers of a request and its body. -/
def headers (r : Request) (body : Option (List UInt8)) : List (String × String) :=
  [("host", hostText r.url), ("accept", "*/*"), ("connection", "close")] ++ r.headers ++
    match body with
    | some bytes =>
      [("content-type", "application/json"), ("content-length", toString bytes.length)]
    | none => []

/-- The head of a request. -/
def head (r : Request) (body : Option (List UInt8)) : String :=
  s!"{r.method.text} {r.url.target} HTTP/1.1" ++ lineBreak ++
    String.join ((headers r body).map fun (name, value) => s!"{name}: {value}" ++ lineBreak) ++
    lineBreak

/-- The bytes of a request. -/
def bytes (r : Request) : List UInt8 :=
  let body := r.body.map fun v => Text.Utf8.encode v.print
  Text.Utf8.encode (head r body).toList ++ body.getD []

/-! ## Answers -/

/-- The bytes of a line and those after it, if the line is there as a whole. -/
def takeLine? : List UInt8 → Option (List UInt8 × List UInt8)
  | [] => none
  | 0x0D :: 0x0A :: bs => some ([], bs)
  | b :: bs => (takeLine? bs).map fun (line, rest) => (b :: line, rest)

/-- A line takes something away, so that the reading of lines comes to an end. -/
theorem length_takeLine? {bs line rest : List UInt8} (h : takeLine? bs = some (line, rest)) :
    rest.length < bs.length := by
  induction bs generalizing line with
  | nil => cases h
  | cons b bs ih =>
    unfold takeLine? at h
    split at h
    · cases h
    · next heq =>
      cases h
      cases heq
      simp only [List.length_cons]
      omega
    · next heq =>
      cases heq
      obtain ⟨⟨line', rest'⟩, hl, he⟩ := Option.map_eq_some_iff.1 h
      cases he
      have := ih hl
      simp only [List.length_cons]
      omega

/-- The lines up to an empty one, and the bytes after it. -/
def takeHead? (bs : List UInt8) : Option (List String × List UInt8) :=
  match h : takeLine? bs with
  | none => none
  | some ([], rest) => some ([], rest)
  | some (line, rest) =>
    have := length_takeLine? h
    (takeHead? rest).map fun (lines, rest) =>
      (String.ofList (Text.Utf8.decodeLossy line) :: lines, rest)
termination_by bs.length

/-- The status in the first line of an answer. -/
def status? (line : String) : Option Nat :=
  match Text.splitAt ' ' line.toList with
  | version :: code :: _ =>
    if version.take 5 = "HTTP/".toList ∧ code.length = 3 ∧ code.all Text.isDigit then
      some (Text.decimalValue 0 code)
    else none
  | _ => none

/-- The value of a header among lines, in small letters. -/
def headerValue? (name : String) (lines : List String) : Option String :=
  lines.findSome? fun line =>
    let cs := line.toList.map Char.toLower
    if cs.takeWhile (· ≠ ':') = name.toList then
      some (Text.trim (String.ofList (cs.drop (name.length + 1))))
    else none

/-- The number that hexadecimal digits at the start of a line spell. -/
def chunkSize? (line : List UInt8) : Option Nat :=
  let digits := (Text.Utf8.decodeLossy line).takeWhile fun c => (Text.hexValue? c).isSome
  if digits = [] then none else Text.hexNumber? 0 digits

/-- How far an answer's body has come. -/
inductive Body where
  /-- It is there as a whole. -/
  | whole (bytes : List UInt8)
  /-- More is to come. -/
  | unfinished
  /-- It is not written as it should be. -/
  | malformed

/-- A body in chunks. -/
def readChunks (before : List UInt8) (bs : List UInt8) : Body :=
  match h : takeLine? bs with
  | none => .unfinished
  | some (line, rest) =>
    have := length_takeLine? h
    match chunkSize? line with
    | none => .malformed
    | some 0 => .whole before
    | some (size + 1) =>
      if rest.length < size + 3 then .unfinished
      else readChunks (before ++ rest.take (size + 1)) (rest.drop (size + 3))
termination_by bs.length
decreasing_by
  simp only [List.length_drop]
  omega

/-- A body, from the header lines before it and the bytes after them. -/
def readBody (lines : List String) (status : Nat) (closed : Bool) (bs : List UInt8) : Body :=
  if status = 204 ∨ status = 304 then .whole []
  else if (headerValue? "transfer-encoding" lines).isSome then readChunks [] bs
  else
    match headerValue? "content-length" lines with
    | some text =>
      let size := Text.decimalValue 0 text.toList
      if !text.toList.all Text.isDigit then .malformed
      else if size ≤ bs.length then .whole (bs.take size)
      else .unfinished
    | none => if closed then .whole bs else .unfinished

/-- What comes of a request whose answer starts with these bytes, unless that is still open.
`closed` says that no more bytes will come. -/
def read? (closed : Bool) (bs : List UInt8) : Option Reply :=
  match takeHead? bs with
  | none => if closed then some .dropped else none
  | some ([], _) => some .dropped
  | some (first :: lines, rest) =>
    match status? first with
    | none => some .dropped
    | some status =>
      match readBody lines status closed rest with
      | .whole body => some (.answer status (some body))
      | .unfinished => if closed then some (.answer status none) else none
      | .malformed => some (.answer status none)

/-- What comes of a request whose answer is not at its end when time is up. Once there is a head, it
is only the body that cannot be read. -/
def expired (bs : List UInt8) : Reply :=
  match (takeHead? bs).bind fun (lines, _) => lines.head?.bind status? with
  | some status => .answer status none
  | none => .late

end Rolebook.Http.Exchange
