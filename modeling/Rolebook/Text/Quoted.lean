import Rolebook.Text.Graphic
import Rolebook.Text.Hex

/-!
# Quoted text

A text between double quotes, in which quotes, backslashes and what does not show are escaped, so
that the text stays on one line and can be told from the words around it.
-/

namespace Rolebook.Text.Quoted

/-- The number of a character in hexadecimal digits, without needless zeros. -/
def number (c : Char) : List Char :=
  ((hexDigits 6 c.toNat).dropWhile (· = 0)).map hexChar

/-- A character as it stands between quotes. -/
def escape (c : Char) : List Char :=
  if c = '"' then ['\\', '"']
  else if c = '\\' then ['\\', '\\']
  else if c = '\n' then ['\\', 'n']
  else if c = '\r' then ['\\', 'r']
  else if c = '\t' then ['\\', 't']
  else if c = '\x00' then ['\\', '0']
  else if isGraphic c then [c]
  else '\\' :: 'u' :: '\x7b' :: number c ++ ['\x7d']

/-- A text in quotes. -/
def quote (s : String) : String :=
  String.ofList ('"' :: s.toList.flatMap escape ++ ['"'])

end Rolebook.Text.Quoted
