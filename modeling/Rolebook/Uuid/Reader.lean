import Rolebook.Text.Case
import Rolebook.Uuid.Basic

/-!
# Reading identifiers

Four spellings are read, their hexadecimal digits in either case: 32 digits, the hyphenated form,
the hyphenated form in braces, and the hyphenated form after `urn:uuid:`. A text that is none of
them is diagnosed: the first character that cannot stand there, or else the first count that is
wrong. Lengths and places are counted in bytes of UTF-8.

Taken for granted of the library that reads identifiers: these spellings and no others, letters of
either case in `urn:uuid:`, no white space, and the words of `Malformed.message`. The proofs rest on
the spellings alone, which are stated by themselves (`Uuid.Spells`).
-/

namespace Rolebook.Uuid

open Text (hexNumber? hexNumber?_lt hexValue?)

/-- 32 digits and nothing else. -/
def ofDigits? (cs : List Char) : Option Uuid :=
  if hlen : cs.length = 32 then
    match h : hexNumber? 0 cs with
    | some v => some ⟨v, by
        have := hexNumber?_lt h
        rw [hlen, Nat.zero_add, Nat.one_mul] at this
        exact this⟩
    | none => none
  else none

/-- The places of the hyphens in the hyphenated form. -/
def hyphenPlaces : List Nat := [8, 13, 18, 23]

/-- A hyphenated form without its four hyphens. -/
def unhyphenate (cs : List Char) : List Char :=
  cs.take 8 ++ (cs.drop 9).take 4 ++ (cs.drop 14).take 4 ++ (cs.drop 19).take 4 ++ cs.drop 24

/-- The hyphenated form and nothing else. -/
def ofHyphenated? (cs : List Char) : Option Uuid :=
  if cs.length = 36 ∧ ∀ i ∈ hyphenPlaces, cs[i]? = some '-' then ofDigits? (unhyphenate cs)
  else none

/-- What stands between `{` and `}`. -/
def insideBraces? : List Char → Option (List Char)
  | '{' :: cs => if cs.getLast? = some '}' then some cs.dropLast else none
  | _ => none

/-- What stands after `urn:uuid:`, in letters of either case. -/
def afterUrn? (cs : List Char) : Option (List Char) :=
  if (cs.take 9).map Char.toLower = "urn:uuid:".toList then some (cs.drop 9) else none

/-- The identifier that a text spells. -/
def ofChars? (cs : List Char) : Option Uuid :=
  match ofDigits? cs with
  | some u => some u
  | none =>
    match ofHyphenated? cs with
    | some u => some u
    | none =>
      match (insideBraces? cs).bind ofHyphenated? with
      | some u => some u
      | none => (afterUrn? cs).bind ofHyphenated?

/-- What is wrong with a text that spells no identifier. -/
inductive Malformed where
  /-- No form of identifier has this many bytes. -/
  | length (found : Nat)
  /-- A character that is neither a digit nor a hyphen. -/
  | character (found : Char) (place : Nat)
  /-- The hyphens make another number of groups than five. -/
  | groupCount (found : Nat)
  /-- A group has another number of digits than it should. -/
  | groupLength (group expected found : Nat)
  deriving DecidableEq

/-- The words for a malformed identifier. -/
def Malformed.message : Malformed → String
  | .length found => s!"invalid length: found {found}"
  | .character found place => s!"invalid character: found `{found}` at {place}"
  | .groupCount found => s!"invalid group count: expected 5, found {found}"
  | .groupLength group expected found =>
    s!"invalid group length in group {group}: expected {expected}, found {found}"

/-- How many bytes of UTF-8 the characters take. -/
def byteLength (cs : List Char) : Nat :=
  (cs.map Char.utf8Size).foldl (· + ·) 0

/-- The places of the hyphens, in bytes, or the first character that is neither hyphen nor digit.
Places count from `start`. -/
def scan (start : Nat) : List Char → Except (Char × Nat) (List Nat)
  | [] => .ok []
  | c :: cs =>
    if c = '-' then (scan (start + 1) cs).map (start :: ·)
    else if (hexValue? c).isSome then scan (start + 1) cs
    else .error (c, start)

/-- The first group whose hyphen is not where it should be. Groups are given as number, start and
length, beside the hyphens that end them. -/
def wrongGroup? : List (Nat × Nat × Nat) → List Nat → Option Malformed
  | (group, start, expected) :: groups, place :: places =>
    if place = start + expected then wrongGroup? groups places
    else some (.groupLength group expected (place - start))
  | _, _ => none

/-- The groups that a hyphen ends: number, start and length. -/
def closedGroups : List (Nat × Nat × Nat) :=
  [(0, 0, 8), (1, 9, 4), (2, 14, 4), (3, 19, 4)]

/-- The fault of a text whose groups are `inner`, the characters of the text before them taking
`offset` bytes. `total` is how many bytes the last group is counted from, and `grouped` says that
the text can only be a form with groups. -/
def diagnoseGroups (inner : List Char) (offset total : Nat) (grouped : Bool) : Malformed :=
  match scan 0 inner with
  | .error (c, place) => .character c (place + offset)
  | .ok places =>
    if places.isEmpty && !grouped then .length total
    else if places.length ≠ 4 then .groupCount (places.length + 1)
    else (wrongGroup? closedGroups places).getD (.groupLength 4 12 (total - 24))

/-- The fault of a text that spells no identifier. Texts as long as a form with groups are judged as
that form, by what is inside the braces or after `urn:uuid:`. -/
def diagnose (cs : List Char) : Malformed :=
  let size := byteLength cs
  if size = 0 ∨ size > 45 then .length size
  else if size = 36 then diagnoseGroups cs 0 36 true
  else
    match insideBraces? cs with
    | some inner =>
      -- just as long as the form: places count from the inner text
      if size = 38 then diagnoseGroups inner 0 36 true
      else diagnoseGroups inner 1 size true
    | none =>
      match afterUrn? cs with
      | some inner =>
        if size = 45 then diagnoseGroups inner 0 36 true
        else diagnoseGroups inner 9 size true
      | none => diagnoseGroups cs 0 size false

/-- The identifier that a text spells, or what is wrong with the text. -/
def read (s : String) : Except Malformed Uuid :=
  match ofChars? s.toList with
  | some u => .ok u
  | none => .error (diagnose s.toList)

/-- The identifier that a text spells. -/
def read? (s : String) : Option Uuid :=
  ofChars? s.toList

end Rolebook.Uuid
