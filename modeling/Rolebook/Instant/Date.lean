/-!
# Dates

The Gregorian calendar, extended to all years, between the first and the last year that an instant
can have. `succ?` and `pred?` step over one midnight, which is as far as a time zone can move a
date.
-/

namespace Rolebook

/-- A day of the calendar. -/
structure Date where
  year : Int
  month : Nat
  day : Nat
  deriving DecidableEq

namespace Date

/-- Whether a year has a 29 February. -/
def isLeapYear (year : Int) : Bool :=
  year % 4 == 0 && (year % 100 != 0 || year % 400 == 0)

/-- How many days a month has. -/
def daysIn (year : Int) (month : Nat) : Nat :=
  if month = 2 then if isLeapYear year then 29 else 28
  else if month = 4 ∨ month = 6 ∨ month = 9 ∨ month = 11 then 30
  else 31

/-- The first year a date can have. -/
def firstYear : Int := -262143

/-- The last year a date can have. -/
def lastYear : Int := 262142

/-- Whether the calendar has this day. -/
def Exists (d : Date) : Prop :=
  firstYear ≤ d.year ∧ d.year ≤ lastYear ∧ 1 ≤ d.month ∧ d.month ≤ 12
    ∧ 1 ≤ d.day ∧ d.day ≤ daysIn d.year d.month

instance (d : Date) : Decidable d.Exists := by
  unfold Exists
  infer_instance

/-- `d`, if the calendar has it. -/
def existing? (d : Date) : Option Date :=
  if d.Exists then some d else none

/-- The day after. -/
def succ? (d : Date) : Option Date :=
  if d.day < daysIn d.year d.month then existing? { d with day := d.day + 1 }
  else if d.month < 12 then existing? { d with month := d.month + 1, day := 1 }
  else existing? ⟨d.year + 1, 1, 1⟩

/-- The day before. -/
def pred? (d : Date) : Option Date :=
  if 1 < d.day then existing? { d with day := d.day - 1 }
  else if 1 < d.month then
    existing? ⟨d.year, d.month - 1, daysIn d.year (d.month - 1)⟩
  else existing? ⟨d.year - 1, 12, 31⟩

end Date

end Rolebook
