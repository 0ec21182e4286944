import Tabula.Csv.Table
import Tabula.Csv.Writer
import Tabula.Date.Moment
import Tabula.Query.Toolkit
import Tabula.Sql.Error
import Tabula.Text.Utf8

/-!
# Faults

A fault ends a run without an exit code: the input or the request made the work impossible.
Each fault has a cause, and `Fault.message` gives the text that explains it.

The message of a text that is not UTF-8 is built as bytes and cut to 198 of them: the column
name and the text up to its first NUL, with every byte outside ASCII shown as U+FFFD.
-/

namespace Tabula

/-- Why a run could not finish. -/
inductive Fault where
  /-- The input has no record to serve as the header. -/
  | noHeader
  /-- The input could not be read as records. -/
  | csvRead (e : Csv.ReadError)
  /-- The rows could not be written. -/
  | csvWrite (e : Csv.WriteError)
  /-- A row has no value under a name that was asked for. -/
  | missingKey (key : String)
  /-- The delimiter is not a single character. -/
  | delimiterLength
  /-- The delimiter is no text; its kind is given. -/
  | delimiterKind (kind : String)
  /-- A file was opened for bytes and then read as text lines. -/
  | bytesRead
  /-- A file was opened for bytes and its lines were echoed as text. -/
  | bytesEcho
  /-- A date cell could not be converted. -/
  | date (e : Date.DateError)
  /-- A cell that looked numeric is no real number. -/
  | notReal (text : String)
  /-- An infinite double cannot become a whole number. -/
  | infiniteToWhole
  /-- A whole number does not fit the table's 64-bit integers. -/
  | integerTooLarge
  /-- A conversion was named without a kind. -/
  | conversionWithoutKind
  /-- The language toolkit raised an error. -/
  | toolkit (e : Query.ToolkitError)
  /-- The database engine failed on a statement. -/
  | engine (e : Sql.EngineError)
  /-- A statement was refused before the engine ran it. -/
  | refused (r : Sql.Refusal)
  /-- A text fetched from a result column is not well-formed UTF-8. -/
  | undecodable (column : String) (bytes : List UInt8)
  deriving Repr, BEq

/-- The text that explains a fault. -/
def Fault.message : Fault → String
  | .noHeader => ""
  | .csvRead .newlineInField =>
    "new-line character seen in unquoted field - " ++
      "do you need to open the file in universal-newline mode?"
  | .csvRead (.fieldTooLarge n) => "field larger than field limit (" ++ toString n ++ ")"
  | .csvWrite (.rowsNotIterable k) => "'" ++ k ++ "' object is not iterable"
  | .csvWrite (.rowNotIterable k) => "iterable expected, not " ++ k
  | .missingKey k => Text.quote k
  | .delimiterLength => "\"delimiter\" must be a 1-character string"
  | .delimiterKind k => "\"delimiter\" must be string, not " ++ k
  | .bytesRead => "cannot use a string pattern on a bytes-like object"
  | .bytesEcho => "string argument expected, got 'bytes'"
  | .date e => e.message
  | .notReal t => "could not convert string to float: " ++ Text.quote t
  | .infiniteToWhole => "cannot convert float infinity to integer"
  | .integerTooLarge => "Python int too large to convert to SQLite INTEGER"
  | .conversionWithoutKind => "list index out of range"
  | .toolkit e => e.message
  | .engine e => e.message
  | .refused r => r.message
  | .undecodable column bytes =>
    let full := Text.encode ("Could not decode to UTF-8 column '" ++ column ++ "' with text '") ++
      Text.untilNul bytes ++ Text.encode "'"
    String.ofList ((full.take 198).map fun b => if b < 128 then Char.ofNat b.toNat else '\uFFFD')

/-- The fault of a text that is no table. -/
def Fault.ofTable : Csv.TableError → Fault
  | .noHeader => .noHeader
  | .read e => .csvRead e

end Tabula
