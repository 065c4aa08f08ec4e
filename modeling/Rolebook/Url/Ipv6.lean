import Rolebook.Text.Decimal
import Rolebook.Text.Hex
import Rolebook.Text.Split

/-!
# IPv6 addresses

An address is eight pieces of sixteen bits. Two colons stand for as many zero pieces as are missing,
at least one, and the last two pieces may be spelled as four decimal bytes. In writing, the first of
the longest runs of zeros is left out, if it is longer than one piece.
-/

namespace Rolebook.Url.Ipv6

/-- The piece that one to four digits spell. -/
def piece? (cs : List Char) : Option Nat :=
  if 1 ≤ cs.length ∧ cs.length ≤ 4 then Text.hexNumber? 0 cs else none

/-- The byte that a decimal number without needless zeros spells. -/
def byte? (cs : List Char) : Option Nat :=
  let value := Text.decimalValue 0 cs
  if cs ≠ [] ∧ cs.all Text.isDigit ∧ (cs.head? = some '0' → cs.length = 1) ∧ value ≤ 255 then
    some value
  else none

/-- The two pieces that four bytes spell. -/
def quad? (cs : List Char) : Option (List Nat) :=
  match (Text.splitAt '.' cs).mapM byte? with
  | some [a, b, c, d] => some [256 * a + b, 256 * c + d]
  | _ => none

/-- The pieces that the groups at the end of an address spell. -/
def lastPieces? : List (List Char) → Option (List Nat)
  | [] => some []
  | [g] =>
    match piece? g with
    | some p => some [p]
    | none => quad? g
  | g :: gs => do return (← piece? g) :: (← lastPieces? gs)

/-- What stands before and after the first two colons in a row. -/
def splitGap? : List Char → Option (List Char × List Char)
  | ':' :: ':' :: cs => some ([], cs)
  | c :: cs => (splitGap? cs).map fun (before, after) => (c :: before, after)
  | [] => none

/-- The groups on one side of two colons; there may be none. -/
def groups (cs : List Char) : List (List Char) :=
  if cs = [] then [] else Text.splitAt ':' cs

/-- The pieces of the address that a text spells. -/
def read? (cs : List Char) : Option (List Nat) :=
  match splitGap? cs with
  | none => (lastPieces? (Text.splitAt ':' cs)).filter (·.length = 8)
  | some (before, after) => do
    let front ← (groups before).mapM piece?
    let back ← lastPieces? (groups after)
    if front.length + back.length ≤ 7 then
      return front ++ List.replicate (8 - front.length - back.length) 0 ++ back
    else none

/-- A piece in the fewest digits. -/
def pieceText (p : Nat) : String :=
  let digits := (Text.hexDigits 4 p).dropWhile (· = 0)
  String.ofList ((if digits = [] then [0] else digits).map Text.hexChar)

/-- How many zeros follow each other from a place on. -/
def zerosAt (pieces : List Nat) (place : Nat) : Nat :=
  ((pieces.drop place).takeWhile (· = 0)).length

/-- The place of the first of the longest runs of zeros. -/
def gap (pieces : List Nat) : Nat :=
  (List.range 8).foldl
    (fun best place => if zerosAt pieces best < zerosAt pieces place then place else best) 0

/-- Pieces with colons between them. -/
def joined (pieces : List Nat) : String :=
  ":".intercalate (pieces.map pieceText)

/-- An address in its shortest form. -/
def text (pieces : List Nat) : String :=
  let place := gap pieces
  let zeros := zerosAt pieces place
  -- a single zero is written out
  if zeros < 2 then joined pieces
  else joined (pieces.take place) ++ "::" ++ joined (pieces.drop (place + zeros))

end Rolebook.Url.Ipv6
