import Tabula.Date.Moment
import Tabula.Decimal.Read
import Tabula.Text.Pattern

/-!
# Dates of a fixed format

A date format is a sequence of fields (day, month, four-digit year) and literal characters.
Reading a text with a format matches the format's pattern at the start of the text. A day is
read as the first of `30`–`31`, `10`–`29`, `01`–`09`, `1`–`9` or a space and `1`–`9` that
lets the rest match; a month as the first of `10`–`12`, `01`–`09`, `1`–`9`; a year as four
decimal digits of any script. A text that the pattern does not match, or that has characters
left after the match, is refused with the text and the format quoted in the message.
-/

namespace Tabula.Date

open Tabula.Text

/-- A field of a date format. -/
inductive Field where
  | day
  | month
  | year
  deriving Repr, BEq, DecidableEq

/-- One item of a date format. -/
inductive FormatItem where
  | field (f : Field)
  | lit (c : Char)
  deriving Repr, BEq, DecidableEq

/-- A date format. -/
abbrev DateFormat := List FormatItem

/-- How a field is written in a format. -/
def Field.directive : Field → String
  | .day => "%d"
  | .month => "%m"
  | .year => "%Y"

/-- The group name under which a field's text is kept. -/
def Field.key : Field → String
  | .day => "d"
  | .month => "m"
  | .year => "Y"

/-- The written form of a format, such as `%Y-%m-%d`. -/
def formatText (f : DateFormat) : String :=
  String.join (f.map fun
    | .field x => x.directive
    | .lit c => c.toString)

/-- The pattern of one field. -/
def Field.pattern : Field → Pattern
  | .day => .group "d" (.altAll [.seqAll [.lit '3', .range '0' '1'],
      .seqAll [.range '1' '2', .digit], .seqAll [.lit '0', .range '1' '9'], .range '1' '9',
      .seqAll [.lit ' ', .range '1' '9']])
  | .month => .group "m" (.altAll [.seqAll [.lit '1', .range '0' '2'],
      .seqAll [.lit '0', .range '1' '9'], .range '1' '9'])
  | .year => .group "Y" (.times 4 .digit)

/-- The pattern of a format. -/
def formatPattern (f : DateFormat) : Pattern :=
  .seqAll (f.map fun
    | .field x => x.pattern
    | .lit c => .lit c)

/-- The whole number a group holds, or zero. -/
def groupValue (gs : Groups) (x : Field) : Int :=
  ((gs.lookup x.key).bind fun cs => Decimal.readWhole? (String.ofList cs)).getD 0

/-- Reads a date with a format. -/
def readWithFormat (f : DateFormat) (s : String) : Except DateError Moment := do
  let some (rest, gs) := (formatPattern f).matchPrefix s.toList
    | throw (.mismatch s (formatText f))
  unless rest.isEmpty do throw (.unconverted (String.ofList rest))
  Moment.make (groupValue gs .year) (groupValue gs .month) (groupValue gs .day) 0 0 0

end Tabula.Date
