import Tabula.Cell

/-!
# Writing delimited records

A record is written as its fields joined by the delimiter and ended by the line end. A field
is put in quotes when it holds the delimiter, the quote character or a character of the line
end, and a quote inside it is then written twice. A field for nothing is empty. A record of
a single empty field is written as two quotes, so that it is not an empty line.
-/

namespace Tabula.Csv

/-- The characters that shape delimited text. -/
structure Dialect where
  delimiter : Char
  quote : Char
  lineEnd : List Char

/-- Comma, double quote, newline. -/
def Dialect.standard : Dialect := ⟨',', '"', ['\n']⟩

/-- Why rows could not be written. -/
inductive WriteError where
  /-- The rows are not a sequence; the kind of value is given. -/
  | rowsNotIterable (kind : String)
  /-- One row is not a sequence; the kind of value is given. -/
  | rowNotIterable (kind : String)
  deriving Repr, BEq

/-- Whether a field has to be put in quotes. -/
def Dialect.needsQuotes (d : Dialect) (cs : List Char) : Bool :=
  cs.any fun c => c == d.delimiter || c == d.quote || d.lineEnd.contains c

/-- Each quote character written twice. -/
def Dialect.doubleQuotes (d : Dialect) (cs : List Char) : List Char :=
  cs.flatMap fun c => if c == d.quote then [c, c] else [c]

/-- The written form of one field. -/
def Dialect.field (d : Dialect) (cs : List Char) : List Char :=
  if d.needsQuotes cs then d.quote :: d.doubleQuotes cs ++ [d.quote] else cs

/-- Joins pieces with a separator between them. -/
def joinWith (sep : Char) : List (List Char) → List Char
  | [] => []
  | [x] => x
  | x :: rest => x ++ sep :: joinWith sep rest

/-- The written form of one record, line end included. -/
def Dialect.record (d : Dialect) (fields : List (List Char)) : List Char :=
  match fields with
  | [[]] => [d.quote, d.quote] ++ d.lineEnd
  | _ => joinWith d.delimiter (fields.map d.field) ++ d.lineEnd

/-- The text a cell contributes to a record: nothing for `none`, else its display form. -/
def cellField : Cell → List Char
  | .none => []
  | c => c.display.toList

/-- Writes rows given as a cell whose members are the rows. -/
def Dialect.writeRows (d : Dialect) (rows : Cell) : Except WriteError String := do
  let some rs := rows.members? | throw (WriteError.rowsNotIterable rows.kindName)
  let lines ← rs.mapM fun r =>
    match r.members? with
    | some fields => pure (d.record (fields.map cellField))
    | none => throw (WriteError.rowNotIterable r.kindName)
  pure (String.ofList lines.flatten)

/-- Writes records of texts. -/
def Dialect.writeRecords (d : Dialect) (records : List (List String)) : String :=
  String.ofList (records.flatMap fun r => d.record (r.map String.toList))

end Tabula.Csv
