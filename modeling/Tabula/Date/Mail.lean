import Tabula.Date.Moment
import Tabula.Decimal.Read
import Tabula.Text.Blank
import Tabula.Text.Digit

/-!
# Dates in the style of mail headers

A mail date such as `Mon, 20 Dec 04 08:37:31 GMT` is read word by word. A leading weekday (a
word ending in a comma, or a weekday name) is dropped, or else the first word is cut after its
last comma. Three words may be a day-month-year joined by dashes; four words may carry the
zone glued to the time. Then the words are day, month, year, time and zone, where month and
day may come in either order, year and time may change places, and a year that does not start
with a digit changes places with the zone. The time is hours and minutes, and seconds
optionally, separated by colons or by points. A two-digit year is taken as 1969 to 2068. The
zone plays no part in the result. Any step that finds no sense gives no date.
-/

namespace Tabula.Date

open Tabula.Text

/-- Month names, short forms first; the index of a name modulo 12 gives its month. -/
def monthNames : List String :=
  ["jan", "feb", "mar", "apr", "may", "jun", "jul", "aug", "sep", "oct", "nov", "dec",
   "january", "february", "march", "april", "may", "june", "july", "august", "september",
   "october", "november", "december"]

/-- Short weekday names. -/
def dayNames : List String := ["mon", "tue", "wed", "thu", "fri", "sat", "sun"]

/-- A word with ASCII letters in lower case. -/
def lowerWord (w : List Char) : String := String.ofList (w.map Char.toLower)

/-- The month of a lower-case name. -/
def monthOf? (name : String) : Option Nat :=
  (monthNames.idxOf? name).map fun i => if i + 1 > 12 then i + 1 - 12 else i + 1

/-- Drops one trailing comma. -/
def dropComma (w : List Char) : List Char :=
  if w.getLast? == some ',' then w.dropLast else w

/-- Splits a word at every occurrence of a separator (empty pieces kept). -/
def splitAt (sep : Char) (w : List Char) : List (List Char) := w.splitOn sep

/-- The position of the first occurrence of a character. -/
def findChar (w : List Char) (c : Char) : Option Nat := w.idxOf? c

/-- Drops a leading weekday, or cuts the first word after its last comma. -/
def dropWeekday : List (List Char) → List (List Char)
  | [] => []
  | w :: rest =>
    if w.getLast? == some ',' || dayNames.contains (lowerWord w) then rest
    else
      let cut := (w.reverse.takeWhile (· != ',')).reverse
      cut :: rest

/-- Three words may be a dashed date followed by two more words. -/
def expandDashed (ws : List (List Char)) : List (List Char) :=
  match ws with
  | [w, a, b] =>
    match splitAt '-' w with
    | [x, y, z] => [x, y, z, a, b]
    | _ => ws
  | _ => ws

/-- Four words may carry the zone glued to the time; else an empty zone is added. -/
def splitZone (ws : List (List Char)) : List (List Char) :=
  match ws with
  | [a, b, c, s] =>
    let i := match findChar s '+' with
      | some i => some i
      | none => findChar s '-'
    match i with
    | some i => if i > 0 then [a, b, c, s.take i, s.drop i] else [a, b, c, s, []]
    | none => [a, b, c, s, []]
  | _ => ws

/-- The parts of a time: hours, minutes and seconds as texts. -/
def timeParts (tm : List Char) : Option (List Char × List Char × List Char) :=
  match splitAt ':' tm with
  | [h, m] => some (h, m, ['0'])
  | [h, m, s] => some (h, m, s)
  | [single] =>
    if single.contains '.' then
      match splitAt '.' single with
      | [h, m] => some (h, m, ['0'])
      | [h, m, s] => some (h, m, s)
      | _ => none
    else none
  | _ => none

/-- A whole number read from a word. -/
def wordValue? (w : List Char) : Option Int := Decimal.readWhole? (String.ofList w)

/-- Year, month, day, hours, minutes and seconds of a mail date, if it makes sense. -/
def readMailParts (s : String) : Option (Int × Nat × Int × Int × Int × Int) := do
  let ws := splitZone (expandDashed (dropWeekday (words s.toList)))
  let (dd, mm, yy, tm, tz) ← match ws with
    | dd :: mm :: yy :: tm :: tz :: _ => some (dd, mm, yy, tm, tz)
    | _ => none
  if dd.isEmpty || mm.isEmpty || yy.isEmpty then none
  let (dd, month) ← match monthOf? (lowerWord mm) with
    | some m => some (dd, m)
    | none => (monthOf? (lowerWord dd)).map fun m => ((lowerWord mm).toList, m)
  let dd := dropComma dd
  let (yy, tm) := match findChar yy ':' with
    | some i => if i > 0 then (tm, yy) else (yy, tm)
    | none => (yy, tm)
  let yy := dropComma yy
  if yy.isEmpty then none
  let yy := match yy.head? with
    | some c => if isDigitLike c then yy else tz
    | none => yy
  let (h, m, sec) ← timeParts (dropComma tm)
  let year ← wordValue? yy
  let day ← wordValue? dd
  let hour ← wordValue? h
  let minute ← wordValue? m
  let second ← wordValue? sec
  let year := if year < 100 then (if year > 68 then year + 1900 else year + 2000) else year
  pure (year, month, day, hour, minute, second)

/-- Reads a mail date. -/
def readMailDate (s : String) : Except DateError Moment :=
  match readMailParts s with
  | none => .error .unreadable
  | some (y, mo, d, h, mi, sec) => Moment.make y mo d h mi sec

end Tabula.Date
