import Rolebook.Text.Split
import Rolebook.Url.Domain.Excluded
import Rolebook.Url.Domain.Forms
import Rolebook.Url.Domain.Letters
import Rolebook.Url.Domain.Words

/-!
# Characters in names

A name is written in small letters, without forms of letters and without characters that do not
show. `written?` says what is written for a character. It follows Unicode's rules for names, under
which the letter `ß`, the Greek small sigma at the end of a word and the two joiners are kept.
-/

namespace Rolebook.Url.Domain

open Rolebook.Text

/-- The words that are written for a character. -/
def word? (c : Char) : Option (List Char) :=
  [letterWords, signWords, formWords, ideographWords, styleWords].findSome? fun chart =>
    match chart.row? c with
    | some (first, words) => (splitAt ' ' words.toList)[c.toNat - first]?
    | none => none

/-- What is written for a letter in a row of equal distances. -/
def rowLetter? (c : Char) : Option Char :=
  (letterRows.row? c).map fun (first, target) => Char.ofNat (target + (c.toNat - first))

/-- The small letter after a capital one, in a row of both by turns. -/
def turnLetter? (c : Char) : Option Char :=
  (turnRows.start? c).bind fun first =>
    if (c.toNat - first) % 2 = 0 then some (Char.ofNat (c.toNat + 1)) else none

/-- What is written in names for a character, unless it is excluded. -/
def written? (c : Char) : Option (List Char) :=
  if c.toNat < 0x80 then some [c.toLower]
  else if ignoredRanges.contains c then some []
  else if excludedRanges.contains c then none
  else
    match word? c with
    | some word => some word
    | none => some [((rowLetter? c).or (turnLetter? c)).getD c]

/-- Whether names have a character as it is. -/
def isPlain (c : Char) : Bool := written? c = some [c]

end Rolebook.Url.Domain
