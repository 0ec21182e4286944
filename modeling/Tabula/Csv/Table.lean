import Tabula.Csv.Reader
import Tabula.Text.Blank

/-!
# Tables read from delimited text

A table is a header and rows. The text is cut after each newline; lines that are only a
newline and lines that start with `#` are dropped, and every other line is trimmed of blanks
at both ends before the records are read (so a quoted field that spans lines is joined with
nothing between the pieces). The first record is the header; each later record becomes a
row that pairs header names with the record's cells, each cell trimmed of ASCII blanks.
A short record leaves later names out of its row, extra cells are dropped, and of two equal
names the later cell wins.
-/

namespace Tabula.Csv

open Tabula.Text

/-- A row: header names paired with values, each name once, in the order names first came. -/
abbrev Row (α : Type) := List (String × α)

/-- The value a row holds under a name. -/
def Row.get? {α : Type} (r : Row α) (name : String) : Option α := r.lookup name

/-- Sets the value under a name: in place if the name is there, else at the end. -/
def Row.set {α : Type} : Row α → String → α → Row α
  | [], k, v => [(k, v)]
  | (k', v') :: rest, k, v => if k' == k then (k, v) :: rest else (k', v') :: Row.set rest k v

/-- A table: the header names and the rows of text cells. -/
structure Table where
  header : List String
  rows : List (Row String)

/-- Why a text is no table. -/
inductive TableError where
  /-- No record is left to serve as the header. -/
  | noHeader
  /-- The records could not be read. -/
  | read (e : ReadError)
  deriving Repr, BEq

/-- Cuts a text after each newline, keeping the newline with its line. -/
def splitLines : List Char → List (List Char)
  | [] => []
  | c :: rest =>
    if c == '\n' then [c] :: splitLines rest
    else match splitLines rest with
      | [] => [[c]]
      | l :: ls => (c :: l) :: ls

/-- Whether a line takes part in the records: not a bare newline, not a comment. -/
def keepsLine (line : List Char) : Bool :=
  !(line == ['\n'] || line.isEmpty || line.head? == some '#')

/-- The lines given to the record reader, trimmed of blanks. -/
def recordLines (text : String) : List (List Char) :=
  ((splitLines text.toList).filter keepsLine).map trimBlank

/-- Pairs header names with the cells of a record. -/
def rowOf (header : List String) (record : List String) : Row String :=
  (header.zip record).foldl
    (fun r (k, v) => Row.set r k (String.ofList (trimAsciiBlank v.toList))) []

/-- Reads a table; with `trimHeader` the header names are trimmed of blanks. -/
def readTable (trimHeader : Bool) (text : String) : Except TableError Table :=
  match readRecords ',' '"' (recordLines text) with
  | .error e => .error (.read e)
  | .ok [] => .error .noHeader
  | .ok (first :: records) =>
    let header := if trimHeader then first.map fun h => String.ofList (trimBlank h.toList)
      else first
    .ok ⟨header, records.map (rowOf header)⟩

end Tabula.Csv
