import Rolebook.Settings.Basic
import Rolebook.Text.Split

/-!
# Settings from a file

A file gives settings in lines `NAME=value`. A setting of the environment comes before one of the
file, and of two lines for one name the first counts. A value has no white space in it. White space
around names and values, blank lines and comments do no harm, but lines after any other line that
gives no setting are not read.
-/

namespace Rolebook.Settings

/-- Whether a name can start with a character. -/
def startsName (c : Char) : Bool := c.isAlpha || c = '_'

/-- Whether a name can hold a character. -/
def isNameChar (c : Char) : Bool := c.isAlphanum || c = '_' || c = '.'

/-- A line of a file. -/
inductive Line where
  /-- A name and its value. -/
  | setting (name value : String)
  /-- Nothing. -/
  | silent
  /-- No setting, and not nothing. -/
  | malformed
  deriving DecidableEq

/-- Whether there is nothing but white space, or a comment. -/
def isSilent (cs : List Char) : Bool :=
  (Text.trimStartList cs).head?.all (· = '#')

/-- What a line with a name says, from what follows the name. -/
def readValue (name : List Char) (cs : List Char) : Line :=
  match Text.trimStartList cs with
  | '=' :: cs =>
    let cs := Text.trimStartList cs
    if isSilent cs then .setting (String.ofList name) ""
    else
      let value := cs.takeWhile fun c => !Text.isBlank c
      if isSilent (cs.drop value.length) then .setting (String.ofList name) (String.ofList value)
      else .malformed
  | _ => .malformed

/-- What a line says. -/
def readLine (cs : List Char) : Line :=
  let cs := Text.trimStartList cs
  if isSilent cs then .silent
  else if cs.head?.any startsName then
    readValue (cs.takeWhile isNameChar) (cs.dropWhile isNameChar)
  else .malformed

/-- The settings of lines up to the first malformed one. -/
def settingsOf : List Line → List (String × String)
  | [] => []
  | .setting name value :: lines => (name, value) :: settingsOf lines
  | .silent :: lines => settingsOf lines
  | .malformed :: _ => []

/-- The settings of a file. -/
def settingsIn (text : String) : List (String × String) :=
  settingsOf ((Text.splitAt '\n' text.toList).map readLine)

/-- A lookup in the environment, and then in a file. -/
def withFile (environment : Lookup) (file : List (String × String)) : Lookup :=
  fun name => (environment name).or (file.lookup name)

end Rolebook.Settings
