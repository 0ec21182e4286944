import Tabula.Cli.Options
import Tabula.Cli.Outcome
import Tabula.Csv.Table
import Tabula.Csv.Writer
import Tabula.Fault

/-!
# The split command

The split command reads a table and writes it back, except that a row whose split column
holds several `|`-separated parts is written once per part, with that part in the column.
Rows are written in the order of the header; a row that lacks a header name is a fault.
-/

namespace Tabula.Tool

open Tabula.Cli Tabula.Csv

/-- The options of the split command. -/
def splitCommand : Command :=
  ⟨"csvsplit.py",
   [⟨'d', "head", "head", false, "HEAD", "list column headings and a sample rows"⟩,
    ⟨'f', "file", "csv_file", true, "CSV_FILE", "A CSV file for input"⟩,
    ⟨'s', "split", "split", true, "SPLIT", "What column to to split on eg: --split='note'"⟩]⟩

/-- The cells of a row in the order of the header. -/
def cellsInOrder {α : Type} (header : List String) (row : Row α) : Except Fault (List α) :=
  header.mapM fun h => match row.get? h with
    | some v => .ok v
    | none => .error (.missingKey h)

/-- The records a row becomes: one per `|`-separated part of the split column, if the row
has that column, else the row itself. -/
def splitRow (header : List String) (column : Option String) (row : Row String) :
    Except Fault (List (List String)) :=
  match column.bind fun c => (row.get? c).map fun v => (c, v) with
  | some (c, v) =>
    ((v.toList.splitOn '|').map String.ofList).mapM fun part =>
      cellsInOrder header (row.set c part)
  | none => (fun r => [r]) <$> cellsInOrder header row

/-- The records of a table with one column split. -/
def splitTable (t : Table) (column : Option String) : Except Fault (List (List String)) := do
  let parts ← t.rows.mapM (splitRow t.header column)
  pure parts.flatten

/-- Where a command reads its table from. -/
inductive Source where
  | stdin (text : String)
  /-- A file, opened for bytes. -/
  | file (name : String) (contents : String)

/-- The name of a source, as the log shows it. -/
def Source.name : Source → String
  | .stdin _ => "stdin"
  | .file n _ => n

/-- The text lines of a source: standard input as text; a file opened for bytes has none to
give, and is a fault if it is not empty. -/
def Source.readTable (trimHeader : Bool) : Source → Except Fault Table
  | .stdin text => (Csv.readTable trimHeader text).mapError Fault.ofTable
  | .file _ contents => if contents.isEmpty then .error .noHeader else .error .bytesRead

/-- The source that the settings name, or the outcome for a file that is not there. -/
def sourceOf (env : Environment) (settings : Settings) : Except Outcome Source :=
  match settings.text? "csv_file" with
  | none => .ok (.stdin env.stdin)
  | some name =>
    match env.file? name with
    | some contents => .ok (.file name contents)
    | none => .error ⟨1, "", "", [(.error, "CSV file not found: " ++ name)]⟩

/-- A run of the split command. -/
def runSplit (env : Environment) (args : List String) : Except Fault Outcome :=
  match splitCommand.read args with
  | .help => .ok ⟨0, splitCommand.helpText, "", []⟩
  | .usageError m => .ok ⟨2, "", splitCommand.usageErrorText m, []⟩
  | .run settings _ =>
    match sourceOf env settings with
    | .error o => .ok o
    | .ok source => do
      let opened := (Level.info, "CSV file to process: " ++ source.name)
      let t ← source.readTable false
      if t.rows.isEmpty then
        return ⟨1, "", "", [opened, (.info, "CSV file is empty")]⟩
      let records ← splitTable t (settings.text? "split")
      let text := Dialect.standard.writeRecords (t.header :: records)
      pure ⟨0, text, "", [opened, (.info, "header is: " ++ textListLiteral t.header)]⟩

end Tabula.Tool
