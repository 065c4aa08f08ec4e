import Rolebook.Json.Basic
import Rolebook.Text.Hex

/-!
# Writing JSON

A value is written without white space. In texts only quotes, backslashes and controls are escaped,
the common controls by a letter and the others by their number.
-/

namespace Rolebook.Json

/-- A character of a text. -/
def escape (c : Char) : List Char :=
  if c = '"' then ['\\', '"']
  else if c = '\\' then ['\\', '\\']
  else if c = '\x08' then ['\\', 'b']
  else if c = '\x0c' then ['\\', 'f']
  else if c = '\n' then ['\\', 'n']
  else if c = '\r' then ['\\', 'r']
  else if c = '\t' then ['\\', 't']
  else if c.toNat < 0x20 then '\\' :: 'u' :: (Text.hexDigits 4 c.toNat).map Text.hexChar
  else [c]

/-- A literal. One that denotes no text is written as half of a pair, which denotes none either. -/
def printText : Option String → List Char
  | some text => '"' :: text.toList.flatMap escape ++ ['"']
  | none => "\"\\ud800\"".toList

/-- A number. -/
def Number.print : Number → List Char
  | .natural n => (toString n).toList
  | .scaled mantissa exponent => s!"{mantissa}e{exponent}".toList

mutual

/-- A value. -/
def print : Json → List Char
  | .null => "null".toList
  | .bool true => "true".toList
  | .bool false => "false".toList
  | .number n => n.print
  | .string text => printText text
  | .array items => '[' :: printItems items ++ [']']
  | .object members => '\x7b' :: printMembers members ++ ['\x7d']

/-- Items with commas between them. -/
def printItems : List Json → List Char
  | [] => []
  | [item] => print item
  | item :: items => print item ++ ',' :: printItems items

/-- Members with commas between them. -/
def printMembers : List (Option String × Json) → List Char
  | [] => []
  | [(name, value)] => printText name ++ ':' :: print value
  | (name, value) :: members => printText name ++ ':' :: print value ++ ',' :: printMembers members

end

end Rolebook.Json
