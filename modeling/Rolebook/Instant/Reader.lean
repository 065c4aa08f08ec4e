import Rolebook.Instant.Basic
import Rolebook.Text.Blank

/-!
# Reading instants

The notation of RFC 3339, read with some freedom: white space may stand around every part, a space
may stand for the `T`, numbers may lack their leading zeros, a year with a sign may have any count
of digits, the colon of the offset may be missing, and `UTC` may stand for the offset. Digits after
the ninth of a fraction are dropped. A second 60 is a leap second, in whatever minute it stands.

Taken for granted of the library that reads dates: this freedom and no other. Since offsets are
given in minutes, every leap second that is read ends a minute, though an instant need not
(`Instant.endsMinute_of_read?`).
-/

namespace Rolebook.Instant

/-- A number of at most `limit` digits after white space. -/
def number? (limit : Nat) (cs : List Char) : Option (Nat × List Char) :=
  Text.takeNumber? limit (Text.trimStartList cs)

/-- A number of at most two digits between two bounds, after white space. -/
def numberIn? (least most : Nat) (cs : List Char) : Option (Nat × List Char) :=
  (number? 2 cs).bind fun (n, rest) =>
    if least ≤ n ∧ n ≤ most then some (n, rest) else none

/-- A year after white space: up to four digits, or a sign and any count of digits. -/
def year? (cs : List Char) : Option (Int × List Char) :=
  match Text.trimStartList cs with
  | '-' :: rest => (Text.takeNumber? rest.length rest).map fun (n, rest) => (-(n : Int), rest)
  | '+' :: rest => (Text.takeNumber? rest.length rest).map fun (n, rest) => ((n : Int), rest)
  | cs => (Text.takeNumber? 4 cs).map fun (n, rest) => ((n : Int), rest)

/-- The character `c` after white space. -/
def mark? (c : Char) (cs : List Char) : Option (List Char) :=
  match Text.trimStartList cs with
  | d :: rest => if d = c then some rest else none
  | [] => none

/-- Year, month and day. -/
def date? (cs : List Char) : Option (Date × List Char) := do
  let (year, cs) ← year? cs
  let cs ← mark? '-' cs
  let (month, cs) ← numberIn? 1 12 cs
  let cs ← mark? '-' cs
  let (day, cs) ← numberIn? 1 31 cs
  let date ← Date.existing? ⟨year, month, day⟩
  return (date, cs)

/-- What stands between date and time: a `T` of either case or a space. -/
def separator? : List Char → Option (List Char)
  | c :: rest => if c = 'T' ∨ c = 't' ∨ c = ' ' then some rest else none
  | [] => none

/-- A point and the digits after it as nanoseconds, or nothing for none. -/
def fraction? : List Char → Option (Nat × List Char)
  | '.' :: cs =>
    match Text.spanDigits 9 cs with
    | ([], _) => none
    | (ds, rest) =>
      some (Text.decimalValue 0 ds * Nat.pow 10 (9 - ds.length), rest.dropWhile Text.isDigit)
  | cs => some (0, cs)

/-- Hour, minute, second and fraction, as seconds since midnight and nanoseconds. -/
def time? (cs : List Char) : Option (Nat × Nat × List Char) := do
  let (hour, cs) ← numberIn? 0 23 cs
  let cs ← mark? ':' cs
  let (minute, cs) ← numberIn? 0 59 cs
  let cs ← mark? ':' cs
  let (second, cs) ← numberIn? 0 60 cs
  let (nano, cs) ← fraction? cs
  let minutes := hour * 3600 + minute * 60
  -- the nanoseconds of a leap second count on from those of second 59
  if second = 60 then return (minutes + 59, nano + 1000000000, cs)
  else return (minutes + second, nano, cs)

/-- A sign and hours and minutes of two digits each, with colons or white space between them. -/
def signedOffset? (sign : Int) : List Char → Option (Int × List Char)
  | h :: h' :: cs =>
    if Text.isDigit h && Text.isDigit h' then
      match cs.dropWhile fun c => c == ':' || Text.isBlank c with
      | m :: m' :: rest =>
        if Text.isDigit m && Text.isDigit m' && m ≤ '5' then
          let hours := Text.decimalValue 0 [h, h']
          let minutes := Text.decimalValue 0 [m, m']
          some (sign * (hours * 3600 + minutes * 60 : Nat), rest)
        else none
      | _ => none
    else none
  | _ => none

/-- The seconds that local time is ahead of UTC. -/
def offset? (cs : List Char) : Option (Int × List Char) :=
  match Text.trimStartList cs with
  | 'Z' :: rest => some (0, rest)
  | 'z' :: rest => some (0, rest)
  | '+' :: rest => signedOffset? 1 rest
  | '-' :: rest => signedOffset? (-1) rest
  | '−' :: rest => signedOffset? (-1) rest
  | cs => if (cs.take 3).map Char.toUpper = ['U', 'T', 'C'] then some (0, cs.drop 3) else none

/-- The instant of a date and time with its offset, if both are in range. -/
def ofLocal? (date : Date) (second nano : Nat) (offset : Int) : Option Instant :=
  let utc : Int := second - offset
  -- an offset moves the date by one day at most
  let day? :=
    if utc < 0 then date.pred? else if utc < 86400 then some date else date.succ?
  day?.bind fun day =>
    let second := (utc % 86400).toNat
    if h : day.Exists ∧ nano < 2000000000 ∧ -86400 < offset ∧ offset < 86400 then
      some ⟨day, second, nano, h.1, by omega, h.2.1⟩
    else none

/-- The instant that the characters of a text spell. -/
def ofChars? (cs : List Char) : Option Instant := do
  let (date, cs) ← date? cs
  let cs ← separator? cs
  let (second, nano, cs) ← time? cs
  let (offset, cs) ← offset? cs
  if Text.trimStartList cs = [] then ofLocal? date second nano offset else none

/-- The instant that a text spells. -/
def read? (s : String) : Option Instant :=
  ofChars? s.toList

end Rolebook.Instant
