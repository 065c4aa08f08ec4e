import Rolebook.Url.Domain.Label

/-!
# Domains

The name of a host on the web may be in any script. It is brought into one form, and then written in
ASCII, label by label.
-/

namespace Rolebook.Url.Domain

open Rolebook.Text

/-- The signs that no name has. -/
def reserved : List Char :=
  [' ', '#', '%', '/', ':', '<', '>', '?', '@', '[', '\\', ']', '^', '|']

/-- Whether a name can have a character that has been written in small letters. -/
def isNameChar (c : Char) : Bool :=
  0x20 ≤ c.toNat && c.toNat ≠ 0x7F && !(reserved.contains c)

/-- Whether labels can stand together: where one has letters from right to left, each stays in one
direction. -/
def isLegible (labels : List Label) : Bool :=
  !(labels.any Label.hasRightToLeft) || labels.all Label.keepsDirection

/-- The labels of a name. -/
def labels? (cs : List Char) : Option (List Label) := do
  let words ← cs.mapM written?
  let labels ← (splitAt '.' (Normal.form words.flatten)).mapM Label.read?
  if (labels.all fun l => l.letters.all isNameChar) && isLegible labels then some labels else none

/-- A name in ASCII and in small letters. -/
def ascii? (cs : List Char) : Option (List Char) :=
  (labels? cs).map fun labels => ['.'].intercalate (labels.map (·.ascii))

end Rolebook.Url.Domain
