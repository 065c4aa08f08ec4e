import Rolebook.Text.Combining
import Rolebook.Text.Composition

/-!
# Normal form

A text can be written with composed letters or with marks after plain letters. In normal form marks
are ordered by their classes, and what can be composed is composed. To get there all letters are
taken apart first.
-/

namespace Rolebook.Text.Normal

/-- The plain letter and the marks of a character that has no more than `depth` marks. -/
def parts : Nat → Char → List Char
  | 0, c => [c]
  | depth + 1, c =>
    match Composition.split? c with
    | some (plain, mark) => parts depth plain ++ [mark]
    | none => [c]

/-- The most marks that one character has. -/
def deepest : Nat := 3

/-- A character put before others. A mark goes after the marks of lower classes. -/
def place (c : Char) : List Char → List Char
  | [] => [c]
  | d :: ds =>
    if 0 < combiningClass d ∧ combiningClass d < combiningClass c then d :: place c ds
    else c :: d :: ds

/-- Marks ordered by their classes; marks of one class keep their order. -/
def order (cs : List Char) : List Char := cs.foldr place []

/-- A letter with what can be composed with it, the marks that cannot, and then the rest. A mark
does not get past one of its own class, and a letter past none. -/
def composed (letter : Char) (marks : List Char) : List Char → List Char
  | [] => letter :: marks
  | c :: cs =>
    let blocked := marks.getLast?.any fun mark => combiningClass c ≤ combiningClass mark
    match if blocked then none else Composition.compose? letter c with
    | some whole => composed whole marks cs
    | none =>
      if combiningClass c = 0 then letter :: (marks ++ composed c [] cs)
      else composed letter (marks ++ [c]) cs

/-- A text in normal form. -/
def form (cs : List Char) : List Char :=
  -- the first combining mark is U+0300
  if cs.all (·.toNat < 0x300) then cs
  else
    match order (cs.flatMap (parts deepest)) with
    | [] => []
    | c :: cs => composed c [] cs

end Rolebook.Text.Normal
