/-!
# Charts of characters

A property of characters is given by ranges, each by the numbers of its first and its last
character. Ranges are in order and do not overlap, so the first one that does not end before a
character is the only one that can hold it. Numbers that no character has may be counted with a
range beside them.
-/

namespace Rolebook.Text

/-- A value for every range of some ranges. -/
abbrev Chart (α : Type) := List (Nat × Nat × α)

/-- The number of the first character of the range that holds a character, and the value for the
range. -/
def Chart.row? {α : Type} (chart : Chart α) (c : Char) : Option (Nat × α) :=
  match chart.find? fun (_, last, _) => c.toNat ≤ last with
  | some (first, _, value) => if first ≤ c.toNat then some (first, value) else none
  | none => none

/-- The value for the range that holds a character. -/
def Chart.at? {α : Type} (chart : Chart α) (c : Char) : Option α :=
  (chart.row? c).map (·.2)

/-- Some ranges of characters. -/
abbrev Ranges := List (Nat × Nat)

/-- The number of the first character of the range that holds a character. -/
def Ranges.start? (ranges : Ranges) (c : Char) : Option Nat :=
  match ranges.find? fun (_, last) => c.toNat ≤ last with
  | some (first, _) => if first ≤ c.toNat then some first else none
  | none => none

/-- Whether one of the ranges holds a character. -/
def Ranges.contains (ranges : Ranges) (c : Char) : Bool :=
  (ranges.start? c).isSome

end Rolebook.Text
