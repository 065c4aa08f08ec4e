/-!
# Splitting

A text is split at every separator, so there is always one piece more than there are separators.
-/

namespace Rolebook.Text

/-- The pieces between the characters that are separators. -/
def split (isSeparator : Char → Bool) : List Char → List (List Char)
  | [] => [[]]
  | c :: cs =>
    if isSeparator c then [] :: split isSeparator cs
    else
      match split isSeparator cs with
      | [] => [[c]]
      | piece :: pieces => (c :: piece) :: pieces

/-- The pieces between the occurrences of a character. -/
def splitAt (separator : Char) : List Char → List (List Char) :=
  split (· == separator)

end Rolebook.Text
