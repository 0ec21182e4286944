/-!
# Reading delimited records

Records are read line by line, a line being given without its end. The reader is a small
machine: at the start of a field a quote opens a quoted field, in which the delimiter is an
ordinary character and two quotes stand for one; outside quotes the delimiter ends a field
and the end of a line ends the record. A quoted field that is still open at the end of a line
goes on with the next line, joined with nothing between. A carriage return outside quotes
ends the record early, and any character after it on the same line is an error. A field may
not grow beyond `fieldLimit` characters. An empty line is a record with no fields.
-/

namespace Tabula.Csv

/-- The longest field the reader accepts. -/
def fieldLimit : Nat := 131072

/-- Why a text could not be read as records. -/
inductive ReadError where
  /-- A character follows a line break outside quotes. -/
  | newlineInField
  /-- A field would grow beyond the limit. -/
  | fieldTooLarge (limit : Nat)
  deriving Repr, BEq, DecidableEq

/-- Where the reader stands inside a record. -/
inductive Phase where
  | startRecord
  | startField
  | inField
  | inQuoted
  | quoteInQuoted
  | afterBreak
  deriving Repr, BEq, DecidableEq

/-- The state of the reader: the phase, the fields read so far in this record (last first)
and the characters of the field being read (last first). -/
structure Reader where
  phase : Phase
  fields : List String
  field : List Char
  fieldLength : Nat

/-- The reader at the start of a record. -/
def Reader.fresh : Reader := ⟨.startRecord, [], [], 0⟩

/-- Adds a character to the field being read. -/
def Reader.add (r : Reader) (c : Char) (p : Phase) : Except ReadError Reader :=
  if r.fieldLength ≥ fieldLimit then .error (.fieldTooLarge fieldLimit)
  else .ok { r with field := c :: r.field, fieldLength := r.fieldLength + 1, phase := p }

/-- Ends the field being read. -/
def Reader.save (r : Reader) (p : Phase) : Reader :=
  { phase := p, fields := String.ofList r.field.reverse :: r.fields, field := [],
    fieldLength := 0 }

/-- A line break character. -/
def isBreak (c : Char) : Bool := c == '\n' || c == '\r'

/-- One step of the reader: `some c` for a character, `none` for the end of a line. -/
def Reader.step (delim quote : Char) (r : Reader) : Option Char → Except ReadError Reader
  | none =>
    match r.phase with
    | .startRecord | .afterBreak => .ok { r with phase := .startRecord }
    | .inQuoted => .ok r
    | _ => .ok (r.save .startRecord)
  | some c =>
    match r.phase with
    | .startRecord | .startField =>
      if r.phase == .startRecord && isBreak c then .ok { r with phase := .afterBreak }
      else if isBreak c then .ok (r.save .afterBreak)
      else if c == quote then .ok { r with phase := .inQuoted }
      else if c == delim then .ok (r.save .startField)
      else r.add c .inField
    | .inField =>
      if isBreak c then .ok (r.save .afterBreak)
      else if c == delim then .ok (r.save .startField)
      else r.add c .inField
    | .inQuoted =>
      if c == quote then .ok { r with phase := .quoteInQuoted }
      else r.add c .inQuoted
    | .quoteInQuoted =>
      if c == quote then r.add c .inQuoted
      else if c == delim then .ok (r.save .startField)
      else if isBreak c then .ok (r.save .afterBreak)
      else r.add c .inField
    | .afterBreak =>
      if isBreak c then .ok r else .error .newlineInField

/-- Feeds one line and its end to the reader. -/
def Reader.feedLine (delim quote : Char) (r : Reader) (line : List Char) :
    Except ReadError Reader := do
  let r ← line.foldlM (fun r c => r.step delim quote (some c)) r
  r.step delim quote none

/-- Whether the reader holds an unfinished field when the input ends. -/
def Reader.pending (r : Reader) : Bool := r.phase == .inQuoted || r.fieldLength != 0

/-- Reads all records of a sequence of lines. A record still open when the lines run out
is ended there if it has an unfinished field. -/
def readRecords (delim quote : Char) : List (List Char) → Except ReadError (List (List String)) :=
  go Reader.fresh
where
  go (r : Reader) : List (List Char) → Except ReadError (List (List String))
    | [] => .ok (if r.pending then [((r.save .startRecord).fields).reverse] else [])
    | line :: rest => do
      let r ← r.feedLine delim quote line
      if r.phase == .startRecord then
        let recs ← go Reader.fresh rest
        pure (r.fields.reverse :: recs)
      else go r rest

end Tabula.Csv
