import Tabula.Date.Calendar
import Tabula.Text.Quoted

/-!
# Moments of the calendar

A moment is a date and a time of day to the second. `Moment.make` checks the parts in the
order year, month, day, hour, minute, second: first that each fits a machine integer, then
that it lies in its range, and names the first part that does not. A moment counts its
seconds from 1970-01-01 00:00:00 with no time zone.
-/

namespace Tabula.Date

/-- Why a text gave no moment. -/
inductive DateError where
  /-- The text does not have the shape of the format (both given as text). -/
  | mismatch (data format : String)
  /-- The format matched a prefix; the rest is given. -/
  | unconverted (rest : String)
  | yearOutOfRange (year : Int)
  | monthOutOfRange
  | dayOutOfRange
  | hourOutOfRange
  | minuteOutOfRange
  | secondOutOfRange
  /-- A part is above the largest machine integer. -/
  | aboveIntRange
  /-- A part is below the least machine integer. -/
  | belowIntRange
  /-- A part does not even fit a long machine integer. -/
  | beyondLongRange
  /-- The text looks like a mail date but its parts could not be found. -/
  | unreadable
  /-- The value to convert is no text; its kind is given. -/
  | notText (kind : String)
  deriving Repr, BEq, DecidableEq

/-- The message that explains a date error. -/
def DateError.message : DateError → String
  | .mismatch data format =>
    "time data " ++ Text.quote data ++ " does not match format " ++ Text.quote format
  | .unconverted rest => "unconverted data remains: " ++ rest
  | .yearOutOfRange y =>
    "year " ++ (if y < 0 then "-" else "") ++ toString y.natAbs ++ " is out of range"
  | .monthOutOfRange => "month must be in 1..12"
  | .dayOutOfRange => "day is out of range for month"
  | .hourOutOfRange => "hour must be in 0..23"
  | .minuteOutOfRange => "minute must be in 0..59"
  | .secondOutOfRange => "second must be in 0..59"
  | .aboveIntRange => "signed integer is greater than maximum"
  | .belowIntRange => "signed integer is less than minimum"
  | .beyondLongRange => "Python int too large to convert to C long"
  | .unreadable => "'NoneType' object is not subscriptable"
  | .notText kind => "expected string or bytes-like object, got '" ++ kind ++ "'"

/-- A date and a time of day. -/
structure Moment where
  year : Int
  month : Nat
  day : Nat
  hour : Nat
  minute : Nat
  second : Nat
  deriving Repr, BEq, DecidableEq

/-- The seconds from 1970-01-01 00:00:00 to the moment. -/
def Moment.epochSeconds (t : Moment) : Int :=
  daysFromEpoch t.year t.month t.day * 86400 + t.hour * 3600 + t.minute * 60 + t.second

/-- Checks that a part fits a machine integer (32 bits, within a 64-bit long). -/
def checkMachineInt (v : Int) : Except DateError Unit :=
  if v ≥ Int.pow 2 63 || v < -(Int.pow 2 63) then .error .beyondLongRange
  else if v ≥ Int.pow 2 31 then .error .aboveIntRange
  else if v < -(Int.pow 2 31) then .error .belowIntRange
  else .ok ()

/-- Checks that `lo ≤ v ≤ hi`, else fails with `e`. -/
def checkRange (v lo hi : Int) (e : DateError) : Except DateError Nat :=
  if lo ≤ v ∧ v ≤ hi then .ok v.toNat else .error e

/-- The moment with these parts, or the first part that is out of its range. -/
def Moment.make (year month day hour minute second : Int) : Except DateError Moment := do
  for v in [year, month, day, hour, minute, second] do checkMachineInt v
  if year < 1 ∨ year > 9999 then throw (.yearOutOfRange year)
  let m ← checkRange month 1 12 .monthOutOfRange
  let d ← checkRange day 1 (daysInMonth year m) .dayOutOfRange
  let h ← checkRange hour 0 23 .hourOutOfRange
  let mi ← checkRange minute 0 59 .minuteOutOfRange
  let s ← checkRange second 0 59 .secondOutOfRange
  pure ⟨year, m, d, h, mi, s⟩

end Tabula.Date
