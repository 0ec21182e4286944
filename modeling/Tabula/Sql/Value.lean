import Tabula.Text.Utf8

/-!
# Values of the table engine

A value has one of five storage classes: nothing (`null`), a 64-bit signed integer, a double,
a text, or a byte string (`blob`). A text is bytes as well, meant to hold UTF-8 but not bound
to: functions that build texts from bytes or code points may leave them malformed.

A column or an expression may carry an affinity, the class its values lean towards: `text`,
`numeric`, `integer`, `real`, or `blob` for none. The affinity of a declared column type is
read from the words in it: `INT` gives integer; `CHAR`, `CLOB` or `TEXT` give text; `BLOB` or
no type at all give none; `REAL`, `FLOA` or `DOUB` give real; any other type is numeric.
-/

namespace Tabula.Sql

/-- The least 64-bit signed integer. -/
def minInt64 : Int := -(Int.pow 2 63)

/-- The greatest 64-bit signed integer. -/
def maxInt64 : Int := Int.pow 2 63 - 1

/-- Whether an integer fits in 64 signed bits. -/
def fitsInt64 (i : Int) : Bool := minInt64 ≤ i && i ≤ maxInt64

/-- A value of the engine; integers are kept within 64 signed bits. -/
inductive Value where
  | null
  | integer (i : Int)
  | real (x : Float)
  | text (bytes : List UInt8)
  | blob (bytes : List UInt8)
  deriving Inhabited

/-- A text value holding the UTF-8 bytes of a string. -/
def Value.ofString (s : String) : Value := .text (Text.encode s)

/-- The name of a value's storage class. -/
def Value.typeName : Value → String
  | .null => "null"
  | .integer _ => "integer"
  | .real _ => "real"
  | .text _ => "text"
  | .blob _ => "blob"

/-- Whether a value is a number. -/
def Value.isNumber : Value → Bool
  | .integer _ | .real _ => true
  | _ => false

/-- The class a column's or an expression's values lean towards. -/
inductive Affinity where
  | blob
  | text
  | numeric
  | integer
  | real
  deriving Repr, BEq, DecidableEq, Inhabited

/-- Numeric, integer and real affinity. -/
def Affinity.isNumeric : Affinity → Bool
  | .numeric | .integer | .real => true
  | _ => false

/-- Whether `needle` occurs in `hay` (both upper case). -/
def containsWord (hay needle : List Char) : Bool :=
  match hay with
  | [] => needle.isEmpty
  | _ :: rest => needle.isPrefixOf hay || containsWord rest needle

/-- The affinity of a declared type, read from the words in it, case ignored. -/
def Affinity.ofTypeName (t : String) : Affinity :=
  let u := t.toList.map Char.toUpper
  if containsWord u "INT".toList then .integer
  else if containsWord u "CHAR".toList || containsWord u "CLOB".toList ||
      containsWord u "TEXT".toList then .text
  else if containsWord u "BLOB".toList || u.isEmpty then .blob
  else if containsWord u "REAL".toList || containsWord u "FLOA".toList ||
      containsWord u "DOUB".toList then .real
  else .numeric

example : Affinity.ofTypeName "INTEGER" = .integer ∧ Affinity.ofTypeName "varchar(10)" = .text ∧
    Affinity.ofTypeName "" = .blob ∧ Affinity.ofTypeName "DOUBLE PRECISION" = .real ∧
    Affinity.ofTypeName "DECIMAL" = .numeric ∧ Affinity.ofTypeName "POINT" = .integer := by
  decide

end Tabula.Sql
