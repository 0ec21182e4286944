import Tabula.Date.Format
import Tabula.Date.Mail

/-!
# Converting date cells to epoch seconds

A cell is a date if it has one of the known shapes, tried in order: `dddd-dd-dd`,
`d(d)/dd/dddd`, `d(d).dd.dddd` and eight digits (year, month, day) are read with their
formats; a text that starts with a day, a month word, a four-digit year and a time (perhaps
after a weekday and a comma), or with a word, a day, the literal `{2-4}` and a time, is read
as a mail date. A digit here is a decimal digit of any script, and a shape that ends the text
also allows one final newline. A date becomes its epoch seconds; any other text stays as it
is.
-/

namespace Tabula.Date

open Tabula.Text

/-- The pieces of the four fixed shapes. -/
def fixedShapes : List (Pattern × DateFormat) :=
  let d := Pattern.digit
  [(.seqAll [.times 4 d, .lit '-', d, d, .lit '-', d, d, .endOfLine],
      [.field .year, .lit '-', .field .month, .lit '-', .field .day]),
   (.seqAll [d, .opt d, .lit '/', d, d, .lit '/', .times 4 d, .endOfLine],
      [.field .day, .lit '/', .field .month, .lit '/', .field .year]),
   (.seqAll [d, .opt d, .lit '.', d, d, .lit '.', .times 4 d, .endOfLine],
      [.field .day, .lit '.', .field .month, .lit '.', .field .year]),
   (.seqAll [.times 8 d, .endOfLine], [.field .year, .field .month, .field .day])]

/-- A time at the end of a mail-date shape: `h(h):mm`, optionally `:ss`. -/
def timeShape : Pattern :=
  .seqAll [.digit, .opt .digit, .lit ':', .digit, .digit,
    .opt (.seqAll [.lit ':', .digit, .digit])]

/-- The two shapes of a mail date. -/
def mailShapes : List Pattern :=
  [.seqAll [.opt (.seqAll [.plus .word, .lit ',', .plus .blank]), .plus .digit, .lit ' ',
      .plus .word, .lit ' ', .times 4 .digit, .plus .blank, timeShape],
   .seqAll [.plus .word, .opt (.lit ','), .plusLazy .blank, .plus .digit, .lit ' ', .digit,
      .text "\x7b2-4\x7d", .plus .blank, timeShape]]

/-- The moment a text names if it has a date shape; `none` for any other text. -/
def dateOf? (s : String) : Except DateError (Option Moment) :=
  let cs := s.toList
  match fixedShapes.find? fun (p, _) => p.matchesPrefix cs with
  | some (_, f) => some <$> readWithFormat f s
  | none =>
    if mailShapes.any fun p => p.matchesPrefix cs then some <$> readMailDate s
    else .ok none

end Tabula.Date
