/-!
# The Gregorian calendar

Leap years, month lengths and the count of days between a date and 1970-01-01 in the
proleptic Gregorian calendar (the Gregorian rules extended to all years). The day count
splits the years into eras of 400 years, which have the same number of days each, and counts
years from March so that the leap day falls at the end of a year.
-/

namespace Tabula.Date

/-- A leap year: divisible by 4, and not by 100 unless by 400. -/
def isLeap (y : Int) : Bool := (y % 4 == 0 && y % 100 != 0) || y % 400 == 0

/-- The number of days of a month (1 to 12) in a year. -/
def daysInMonth (y : Int) : Nat → Nat
  | 2 => if isLeap y then 29 else 28
  | 4 | 6 | 9 | 11 => 30
  | _ => 31

/-- The number of days from 1970-01-01 to the date `y-m-d` (negative before it). -/
def daysFromEpoch (y : Int) (m d : Nat) : Int :=
  let y := if m ≤ 2 then y - 1 else y
  let era := y / 400
  let yearOfEra := y % 400
  let monthFromMarch : Int := (m + 9) % 12
  let dayOfYear := (153 * monthFromMarch + 2) / 5 + d - 1
  let dayOfEra := yearOfEra * 365 + yearOfEra / 4 - yearOfEra / 100 + dayOfYear
  era * 146097 + dayOfEra - 719468

example : daysFromEpoch 1970 1 1 = 0 ∧ daysFromEpoch 2000 3 1 = 11017 ∧
    daysFromEpoch 1969 12 31 = -1 ∧ daysFromEpoch 1 1 1 = -719162 := by decide

end Tabula.Date
