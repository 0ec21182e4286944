import Tabula.Tool.Split
import Tabula.Text.Case
import Tabula.Query.Conversion
import Tabula.Query.Toolkit
import Tabula.Date.Convert
import Tabula.Decimal.Read
import Tabula.Sql.Statement

/-!
# The query command

The query command loads a table into a database table and writes back what an SQL query over
it gives.

1. With `--head`, the lines of the input are written back as they are, numbered from 0,
   until the line numbered past ten: the first eleven lines.
2. `--convert` names conversions, `name:kind` pieces separated by commas. A column's
   conversion fixes its declared type and turns its cells into dates (epoch seconds),
   doubles or whole numbers as the rows are loaded; a cell is only turned into a number if
   it is not empty and holds nothing but blanks, digits and dots. The `noun` and
   `nounphrase` conversions hand the cells to a language toolkit, which the command is
   given.
3. The table `temptable` gets one column per header name, declared as `"name" TYPE`, and one
   row per record, each value stored under its column's affinity.
4. The query is `SELECT fields FROM temptable` with the `--where` filter, and either the
   `--group` grouping (which also orders) or the `--sort` ordering. `--list` replaces the
   field list, which is otherwise every header name quoted.
5. A query the engine rejects while preparing it, or that fails before its first row with an
   operational error, ends the run with exit code `-1` and a log line. Otherwise the column
   names and the rows are written with the `--delimiter` character.
-/

namespace Tabula.Tool

open Tabula.Cli Tabula.Csv Tabula.Query Tabula.Sql

/-- The options of the query command. -/
def queryCommand : Command :=
  ⟨"csvtable.py",
   [⟨'d', "head", "head", false, "HEAD", "list column headings and a sample rows"⟩,
    ⟨'f', "file", "csv_file", true, "CSV_FILE", "A CSV file for input"⟩,
    ⟨'c', "convert", "convert", true, "CONVERT",
      "What columns to to convert to what eg: --convert='date_epoch:date,hours:int'"⟩,
    ⟨'w', "where", "where", true, "WHERE", "What WHERE clause to filter the CSV FIle by"⟩,
    ⟨'s', "sort", "sort", true, "SORT", "What columns to sort the CSV FIle by"⟩,
    ⟨'g', "group", "group", true, "GROUP", "What columns to group by"⟩,
    ⟨'l', "list", "list", true, "LIST", "alternate field list"⟩,
    ⟨'b', "delimiter", "delimiter", true, "DELIMITER", "alternate field delimiter"⟩]⟩

/-- The text set for an option, unless it is empty. -/
def givenText (s : Settings) (key : String) : Option String :=
  (s.text? key).filter (!·.isEmpty)

/-- The `--head` loop over lines numbered from `i`: each line is written in turn, until the
line numbered past ten, where the loop breaks. -/
def echoHead (write : List Char → Except Fault (List Char)) :
    Nat → List (List Char) → Except Fault (List Char)
  | _, [] => pure []
  | i, line :: rest =>
    if i > 10 then pure []
    else do
      let out ← write line
      let more ← echoHead write (i + 1) rest
      pure (out ++ more)

/-- What the `--head` loop writes from a source: the lines of standard input as they are; the
lines of a file opened for bytes cannot be written as text. -/
def Source.head : Source → Except Fault String
  | .stdin text => String.ofList <$> echoHead pure 0 (splitLines text.toList)
  | .file _ contents =>
    String.ofList <$> echoHead (fun _ => throw .bytesEcho) 0 (splitLines contents.toList)

/-- Records a value under a name: the name keeps its first place and takes the last value. -/
def putLast : List (String × String) → String → String → List (String × String)
  | [], k, v => [(k, v)]
  | (k', v') :: rest, k, v => if k' == k then (k, v) :: rest else (k', v') :: putLast rest k v

/-- The conversions a `--convert` text names, by column, with their kinds lower-cased. Each
piece is trimmed of blanks and cut at `:`; the column is what comes before the first `:` and
the kind what comes between the first and the second. A piece without `:` is a fault. -/
def readConversions (text : String) : Except Fault (List (String × String)) := do
  let pieces := (text.toList.splitOn ',').map fun p => (Text.trimBlank p).splitOn ':'
  let kinds ← pieces.mapM fun parts => match parts with
    | _ :: kind :: _ => pure (Text.lowerText (String.ofList kind))
    | _ => throw .conversionWithoutKind
  let names := pieces.map fun parts => String.ofList (parts.headD [])
  pure ((names.zip kinds).foldl (fun acc (n, k) => putLast acc n k) [])

/-- How a dictionary of texts is written in the log. -/
def dictLiteral (entries : List (String × String)) : String :=
  (Cell.dict (entries.map fun (k, v) => (.text k, .text v))).literal

/-- Whether a cell is to be read as a number: not empty, and only blanks, digits and dots. -/
def looksNumeric (s : String) : Bool :=
  !s.isEmpty && s.toList.all fun c => Text.isBlank c || Text.isDecimal c || c == '.'

/-- The whole part of a finite double; `none` for infinities and `NaN`. -/
def wholePart (x : Float) : Option Int :=
  match Binary.decode x with
  | .signed neg (.finite m e) =>
    let whole : Nat := if 0 ≤ e then m * Nat.pow 2 e.toNat else m / Nat.pow 2 (-e).toNat
    some (if neg then -(whole : Int) else whole)
  | _ => none

/-- A text cell after a conversion. -/
def convertText (kit : Toolkit) (c : Conversion) (s : String) : Except Fault Cell :=
  match c with
  | .date =>
    match Date.dateOf? s with
    | .ok (some m) => pure (.float (Binary.ofInt m.epochSeconds))
    | .ok none => pure (.text s)
    | .error e => throw (.date e)
  | .real =>
    if !looksNumeric s then pure (.text s)
    else match Decimal.readReal? s with
      | some x => pure (.float x)
      | none => throw (.notReal s)
  | .whole =>
    if !looksNumeric s then pure (.text s)
    else match Decimal.readReal? s with
      | some x =>
        match wholePart x with
        | some i => pure (.int i)
        | none => throw .infiniteToWhole
      | none => throw (.notReal s)
  | .nouns => (Cell.text <$> nounWords kit s).mapError .toolkit
  | .nounPhrases => (Cell.text <$> nounPhrases kit s).mapError .toolkit
  | .keep _ => pure (.text s)

/-- A cell after a conversion: only texts are converted. -/
def convertCell (kit : Toolkit) (c : Conversion) : Cell → Except Fault Cell
  | .text s => convertText kit c s
  | v => pure v

/-- Applies the conversions to a row in turn; a conversion that reads its column needs it. -/
def convertRow (kit : Toolkit) (conversions : List (String × Conversion)) (row : Row Cell) :
    Except Fault (Row Cell) :=
  conversions.foldlM step row
where
  /-- Applies one conversion. -/
  step (r : Row Cell) : String × Conversion → Except Fault (Row Cell)
    | (_, .keep _) => pure r
    | (name, c) =>
      match r.get? name with
      | some v => do pure (r.set name (← convertCell kit c v))
      | none => throw (.missingKey name)

/-- The value a cell is stored as: a text as its UTF-8 bytes, a whole number as an integer
(which must fit 64 bits), a double as a double. -/
def bindCell : Cell → Except Fault Value
  | .none => pure .null
  | .int i => if fitsInt64 i then pure (.integer i) else throw .integerTooLarge
  | .float x => pure (.real x)
  | .text s => pure (.ofString s)
  | .bytes bs => pure (.blob bs)
  | c => pure (.ofString c.display)

/-- What the command asks of the database engine that holds its table: to create the table
from a statement, to check that a row of so many values fits it, to insert a row, and to run a
query over it. -/
structure Engine (σ : Type) where
  create : String → Except Refusal σ
  checkArity : σ → Nat → Except EngineError Unit
  insert : σ → List Value → Except EngineError σ
  query : σ → String → QueryResult

/-- The engine of `Tabula.Sql`, holding the one table `temptable`; a query runs in a session
that has inserted the table's rows. -/
def sqlEngine : Engine Sql.Table where
  create := createTable "temptable"
  checkArity := Sql.Table.checkArity
  insert := Sql.Table.insert
  query t sql := t.query ⟨t.rows.length⟩ sql

/-- Converts and inserts the rows in turn. -/
def loadRows {σ : Type} (kit : Toolkit) (engine : Engine σ) (header : List String)
    (conversions : List (String × Conversion)) : σ → List (Row String) → Except Fault σ
  | t, [] => pure t
  | t, row :: rest => do
    let converted ← convertRow kit conversions (row.map fun (k, v) => (k, Cell.text v))
    let cells ← cellsInOrder header converted
    (engine.checkArity t cells.length).mapError .engine
    let values ← cells.mapM bindCell
    let t ← (engine.insert t values).mapError .engine
    loadRows kit engine header conversions t rest

/-- The statement that creates the table. -/
def createStatement (header : List String) (conversions : Conversions) : String :=
  let columns := header.map fun h => "\"" ++ h ++ "\" " ++ columnType conversions h
  "CREATE TABLE temptable(" ++ ", ".intercalate columns ++ ")"

/-- The query the settings ask for. -/
def queryText (header : List String) (settings : Settings) : String :=
  let filter := match givenText settings "where" with
    | some w => " WHERE " ++ w
    | none => ""
  let (grouping, ordering) := match givenText settings "group" with
    | some g => (" GROUP BY " ++ g, " ORDER BY " ++ g)
    | none => ("", match givenText settings "sort" with
      | some s => " ORDER BY " ++ s
      | none => "")
  let fields := (givenText settings "list").getD
    (", ".intercalate (header.map fun h => "\"" ++ h ++ "\""))
  "SELECT " ++ fields ++ " FROM temptable " ++ filter ++ grouping ++ ordering

/-- A value as a cell, fetched from the column `name`: a text must be well-formed UTF-8. -/
def cellOf (name : String) : Value → Except Fault Cell
  | .null => pure .none
  | .integer i => pure (.int i)
  | .real x => pure (.float x)
  | .text bs =>
    match Text.decode? bs with
    | some s => pure (.text s)
    | none => throw (.undecodable name bs)
  | .blob bs => pure (.bytes bs)

/-- The rows of a result as cells, fetched in order. -/
def fetchRows (names : List String) (rows : List (List Value)) : Except Fault (List (List Cell)) :=
  rows.mapM fun r => (names.zip r).mapM fun (n, v) => cellOf n v

/-- Writes the column names and the rows with a delimiter, which must be one character. -/
def writeResult (delimiter : String) (names : List String) (rows : List (List Cell)) :
    Except Fault String := do
  let d ← match delimiter.toList with
    | [c] => pure { Dialect.standard with delimiter := c }
    | _ => throw .delimiterLength
  let cells := Cell.list ((names.map Cell.text |> Cell.list) :: rows.map Cell.list)
  (d.writeRows cells).mapError .csvWrite

/-- A run of the query command on a source that is there. -/
def runQueryOn {σ : Type} (kit : Toolkit) (engine : Engine σ) (settings : Settings)
    (source : Source) :
    Except Fault Outcome := do
  let opened := (Level.info, "CSV file to process: " ++ source.name)
  if settings.flag "head" then
    return ⟨0, ← source.head, "", [opened]⟩
  let named ← match givenText settings "convert" with
    | some text => readConversions text
    | none => pure []
  let conversions := named.map fun (n, k) => (n, Conversion.ofName k)
  let log := [opened, (.info, "conversions are: " ++ dictLiteral named)]
  let t ← source.readTable true
  if t.rows.isEmpty then
    return ⟨1, "", "", log ++ [(.info, "CSV file is empty")]⟩
  let table ← (engine.create (createStatement t.header conversions)).mapError .refused
  let table ← loadRows kit engine t.header conversions table t.rows
  let sql := queryText t.header settings
  let log := log ++ [(.info, "SQL is: " ++ sql)]
  let sqlError := fun (e : EngineError) =>
    Outcome.mk (-1) "" "" (log ++ [(.info, "SQL Error: " ++ e.message)])
  match engine.query table sql with
  | QueryResult.refused (.prepare e) =>
    if e.kind == .operational then pure (sqlError e) else throw (.engine e)
  | QueryResult.refused r => throw (.refused r)
  | .ran _ ⟨[], some e⟩ =>
    if e.kind == .operational then pure (sqlError e) else throw (.engine e)
  | .ran names ⟨rows, some e⟩ =>
    let _ ← fetchRows names rows
    throw (.engine e)
  | .ran names ⟨rows, none⟩ =>
    let cells ← fetchRows names rows
    let text ← writeResult ((settings.text? "delimiter").getD ",") names cells
    pure ⟨0, text, "", log ++ [(.info, "column names out: " ++ textListLiteral names)]⟩

/-- A run of the query command with a language toolkit, on a database engine. -/
def runQueryWith {σ : Type} (kit : Toolkit) (engine : Engine σ) (env : Environment)
    (args : List String) :
    Except Fault Outcome :=
  match queryCommand.read args with
  | .help => .ok ⟨0, queryCommand.helpText, "", []⟩
  | .usageError m => .ok ⟨2, "", queryCommand.usageErrorText m, []⟩
  | .run settings _ =>
    match sourceOf env settings with
    | .error o => .ok o
    | .ok source => runQueryOn kit engine settings source

/-- A run of the query command with a language toolkit. -/
def runQuery (kit : Toolkit) (env : Environment) (args : List String) : Except Fault Outcome :=
  runQueryWith kit sqlEngine env args

end Tabula.Tool
