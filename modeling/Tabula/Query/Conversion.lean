/-!
# Column conversions

A conversion names what a column's text cells become when the table is loaded: dates become
epoch seconds, `int` cells whole numbers, `float` cells doubles, and the word-tagging kinds
need a language tagger. Any other name leaves the cells as text. The declared type of a
column follows from its conversion: whole numbers and dates are `INTEGER`, doubles `REAL`,
everything else `TEXT`.
-/

namespace Tabula.Query

/-- What the cells of a column become when the table is loaded. -/
inductive Conversion where
  | date
  | whole
  | real
  | nouns
  | nounPhrases
  | keep (name : String)
  deriving Repr, BEq, DecidableEq

/-- The conversion a name stands for; names are matched exactly. -/
def Conversion.ofName : String → Conversion
  | "date" => .date
  | "int" => .whole
  | "float" => .real
  | "noun" => .nouns
  | "nounphrase" => .nounPhrases
  | s => .keep s

/-- The declared type of a column with this conversion. -/
def Conversion.columnType : Conversion → String
  | .whole | .date => "INTEGER"
  | .real => "REAL"
  | _ => "TEXT"

/-- The conversions of a table, by column name, in the order they were first named. -/
abbrev Conversions := List (String × Conversion)

/-- The declared type of a column under a set of conversions. -/
def columnType (conversions : Conversions) (column : String) : String :=
  match conversions.lookup column with
  | some c => c.columnType
  | none => "TEXT"

end Tabula.Query
