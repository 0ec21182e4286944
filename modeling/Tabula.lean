import Tabula.Text.Ranges
import Tabula.Text.Blank
import Tabula.Text.Cased
import Tabula.Text.Case
import Tabula.Text.Utf8
import Tabula.Json.Node
import Tabula.Json.Path
import Tabula.Text.Digit
import Tabula.Text.Word
import Tabula.Text.Printable
import Tabula.Binary.Float
import Tabula.Decimal.Shortest
import Tabula.Decimal.Layout
import Tabula.Decimal.Peel
import Tabula.Text.Quoted
import Tabula.Decimal.Read
import Tabula.Cell
import Tabula.Csv.Writer
import Tabula.Csv.Reader
import Tabula.Csv.Table
import Tabula.Query.Conversion
import Tabula.Date.Calendar
import Tabula.Date.Moment
import Tabula.Text.Pattern
import Tabula.Date.Format
import Tabula.Date.Mail
import Tabula.Date.Convert
import Tabula.Cli.Options
import Tabula.Cli.Outcome
import Tabula.Fault
import Tabula.Tool.Split
import Tabula.Sql.Value
import Tabula.Sql.Printf
import Tabula.Sql.DateTime
import Tabula.Sql.Number
import Tabula.Sql.Compare
import Tabula.Sql.Token
import Tabula.Sql.Syntax
import Tabula.Sql.Parse
import Tabula.Sql.Error
import Tabula.Sql.Pattern
import Tabula.Sql.Function
import Tabula.Sql.Eval
import Tabula.Sql.Resolve
import Tabula.Sql.Aggregate
import Tabula.Sql.Run
import Tabula.Sql.Statement
import Tabula.Tool.Query
import Tabula.Main
import Tabula.Proofs.Csv.Lines
import Tabula.Proofs.Csv.Reading
import Tabula.Proofs.Csv.RoundTrip
import Tabula.Proofs.Tool.Cells
import Tabula.Proofs.Tool.SplitRows
import Tabula.Proofs.Text.Utf8
import Tabula.Proofs.Tool.IdentityQuery
import Tabula.Proofs.Csv.LineEnds
import Tabula.Proofs.Csv.Faults
import Tabula.Proofs.Date.Calendar
import Tabula.Proofs.Date.Moment
import Tabula.Proofs.Text.Pattern
import Tabula.Proofs.Decimal.Read
import Tabula.Proofs.Binary.Integers
import Tabula.Proofs.Date.Fields
import Tabula.Proofs.Date.Numeric
import Tabula.Proofs.Date.Mail
import Tabula.Proofs.Tool.NumericGuard
import Tabula.Proofs.Binary.Rounding
import Tabula.Proofs.Tool.Head
import Tabula.Proofs.Tool.Numerals
import Tabula.Proofs.Tool.Loading
import Tabula.Proofs.Tool.WholeColumn
import Tabula.Proofs.Tool.Nouns
