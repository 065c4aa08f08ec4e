import Rolebook.Instant.Date
import Rolebook.Text.Decimal

/-!
# Instants

A point in time in UTC, to the nanosecond. A leap second comes after another second of the same
number: its nanoseconds count on past a thousand million. It can come after any second. The text is
the one of RFC 3339 with `Z`, and with the fewest of 0, 3, 6 or 9 digits after the point that lose
nothing. In it a leap second takes the next number, which is 60 after second 59, and after any other
second the number of an ordinary one.
-/

namespace Rolebook

/-- A point in time in UTC. -/
structure Instant where
  date : Date
  /-- Seconds since midnight. -/
  second : Nat
  /-- Nanoseconds since the second began; from a thousand million on, those of a leap second. -/
  nano : Nat
  date_exists : date.Exists
  second_lt : second < 86400
  nano_lt : nano < 2000000000
  deriving DecidableEq

namespace Instant

/-- Four digits, or a sign and at least four digits for a year before 0 or after 9999. -/
def yearChars (year : Int) : List Char :=
  if 0 ≤ year ∧ year ≤ 9999 then Text.decimalDigits 4 year.toNat
  else
    (if year < 0 then '-' else '+')
      :: Text.decimalDigits (max 4 (toString year.natAbs).length) year.natAbs

/-- A fraction of a second, in the fewest of 0, 3, 6 or 9 digits. -/
def fractionChars (nano : Nat) : List Char :=
  if nano = 0 then []
  else if nano % 1000000 = 0 then '.' :: Text.decimalDigits 3 (nano / 1000000)
  else if nano % 1000 = 0 then '.' :: Text.decimalDigits 6 (nano / 1000)
  else '.' :: Text.decimalDigits 9 nano

/-- The second of the minute as written: one more in a leap second. -/
def writtenSecond (t : Instant) : Nat :=
  t.second % 60 + t.nano / 1000000000

/-- The text of RFC 3339, as characters. -/
def chars (t : Instant) : List Char :=
  yearChars t.date.year
    ++ '-' :: Text.decimalDigits 2 t.date.month
    ++ '-' :: Text.decimalDigits 2 t.date.day
    ++ 'T' :: Text.decimalDigits 2 (t.second / 3600)
    ++ ':' :: Text.decimalDigits 2 (t.second / 60 % 60)
    ++ ':' :: Text.decimalDigits 2 t.writtenSecond
    ++ fractionChars (t.nano % 1000000000)
    ++ ['Z']

/-- The text of RFC 3339. -/
def text (t : Instant) : String :=
  String.ofList t.chars

end Instant

end Rolebook
