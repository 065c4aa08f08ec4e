import Rolebook.Text.Direction
import Rolebook.Text.Joining
import Rolebook.Text.Normal
import Rolebook.Text.Punycode
import Rolebook.Url.Domain.Mapping

/-!
# Labels

A label is what stands between the dots of a name. One that has letters outside ASCII is written in
ASCII after a marker, and one that starts with the marker has to stand for such letters.
-/

namespace Rolebook.Url.Domain

open Rolebook.Text

/-- A label: the letters that it stands for, and how it is written in ASCII. -/
structure Label where
  letters : List Char
  ascii : List Char
  deriving DecidableEq

namespace Label

/-- What a label starts with that stands for other letters. -/
def marker : List Char := ['x', 'n', '-', '-']

/-- The longest text after a marker that is read. -/
def longestRead : Nat := 2000

/-- The longest text that is written after a marker. -/
def longestWritten : Nat := 1000

/-- The letters that the text after a marker stands for. They are letters that names have, in normal
form, and start with no marker. -/
def unmarked? (cs : List Char) : Option (List Char) :=
  if cs.getLast?.all (· = '-') ∨ longestRead < cs.length ∨ !(cs.all Punycode.isBasic) then none
  else
    (Punycode.decode? cs).filter fun letters =>
      letters.all isPlain && Normal.form letters = letters && !(marker.isPrefixOf letters)

/-! ## Joiners -/

/-- The character that keeps two letters apart. -/
def nonJoiner : Char := '\u200c'

/-- The character that joins two letters. -/
def joiner : Char := '\u200d'

/-- The combining class of marks that take the vowel from a letter. -/
def viramaClass : Nat := 9

/-- Whether a joiner may stand between the letters before it, the last one first, and those after
it: after a virama, and one that keeps apart also where the letters would be joined. -/
def fits (c : Char) (before after : List Char) : Bool :=
  before.head?.any (combiningClass · = viramaClass) ||
    (c = nonJoiner && (before.dropWhile isTransparent).head?.any joinsNext &&
      (after.dropWhile isTransparent).head?.any joinsPrevious)

/-- Whether all joiners in a text may stand where they do, after the letters of `before`, the last
one first. -/
def joinersFit (before : List Char) : List Char → Bool
  | [] => true
  | c :: cs =>
    ((c ≠ nonJoiner && c ≠ joiner) || fits c before cs) && joinersFit (c :: before) cs

/-! ## Reading -/

/-- Whether letters can be a label: there is a letter for each mark, and joiners are where they may
be. -/
def isWellFormed (letters : List Char) : Bool :=
  letters.all Punycode.isBasic || (!(letters.head?.any isMark) && joinersFit [] letters)

/-- The label that letters in normal form are. -/
def read? (cs : List Char) : Option Label :=
  let label :=
    if marker.isPrefixOf cs then (unmarked? (cs.drop marker.length)).map fun letters => ⟨letters, cs⟩
    else if cs.all Punycode.isBasic then some ⟨cs, cs⟩
    else if longestWritten < cs.length then none
    else some ⟨cs, marker ++ Punycode.encode cs⟩
  label.filter fun l => isWellFormed l.letters

/-! ## Direction -/

/-- Whether a label has letters from right to left, or Arabic numbers. -/
def hasRightToLeft (l : Label) : Bool :=
  l.letters.any fun c => Direction.ofChar c = .rightToLeft || Direction.ofChar c = .arabicNumber

/-- Whether a label stays in one direction, so that it cannot be mixed up with those beside it. It
starts with a letter, ends with a letter or a number, has letters of the other direction nowhere,
and numbers of one kind if it goes from right to left. -/
def keepsDirection (l : Label) : Bool :=
  let directions := l.letters.map Direction.ofChar
  let last := (directions.reverse.dropWhile (· = .mark)).head?
  match directions.head? with
  | some .leftToRight =>
    last.all [.leftToRight, .europeanNumber].contains &&
      !(directions.contains .rightToLeft || directions.contains .arabicNumber)
  | some .rightToLeft =>
    last.all [.rightToLeft, .europeanNumber, .arabicNumber].contains &&
      !(directions.contains .leftToRight) &&
      !(directions.contains .europeanNumber && directions.contains .arabicNumber)
  | some _ => false
  | none => true

end Label

end Rolebook.Url.Domain
