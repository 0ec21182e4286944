import Tabula.Sql.Run

/-!
# Statements: creating the table, loading it, querying it

A statement is given as text. Before the engine sees it, the text must hold no NUL
character; the engine then reads the first statement and prepares it, and only blanks
(space, tab, form feed, line feed, carriage return) and comments (`-- …` to the end of a
line, `/* … */`) may follow the `;` that ends it. A query's parameters would need values, and
none are given. A prepared query runs and delivers its rows.

A table is created from the column list of a `CREATE TABLE` statement; each column's declared
type gives its affinity. A row is inserted with one value per column, and each value is
stored under its column's affinity.
-/

namespace Tabula.Sql

/-- Where a scan of a statement's tail stands: between comments, in a line comment, or in a
block comment. -/
inductive TailState where
  | blank
  | line
  | block

/-- Whether only blanks and comments remain; a comment left open at the end counts. -/
def tailIsBlank : TailState → List Char → Bool
  | _, [] => true
  | .blank, c :: rest =>
    if c == ' ' || c == '\t' || c == '\x0c' || c == '\n' || c == '\r' then tailIsBlank .blank rest
    else
      match c, rest with
      | '-', '-' :: more => tailIsBlank .line more
      | '/', '*' :: more => tailIsBlank .block more
      | _, _ => false
  | .line, c :: rest => tailIsBlank (if c == '\n' then .blank else .line) rest
  | .block, '*' :: '/' :: rest => tailIsBlank .blank rest
  | .block, _ :: rest => tailIsBlank .block rest

/-- The refusals every statement text is checked for, in order: a NUL character, then (after
the statement is read) a second statement. -/
def checkText (sql : String) : Except Refusal Unit :=
  if sql.toList.contains '\x00' then throw .nullCharacter else pure ()

/-- The table a `CREATE TABLE` statement creates, under the given name. -/
def createTable (name sql : String) : Except Refusal Table := do
  checkText sql
  match parseCreateTable sql with
  | .error (.malformed e) => throw (.prepare (.malformed e))
  | .error (.duplicateColumn n) => throw (.prepare (.duplicateColumn n))
  | .ok (cols, tail) =>
    if !tailIsBlank .blank tail.toList then throw .severalStatements
    pure ⟨⟨name, cols, sql⟩, []⟩

/-- Checks that a row of `n` values fits the table. -/
def Table.checkArity (t : Table) (n : Nat) : Except EngineError Unit :=
  let width := t.schema.columns.length
  if n == width then pure () else throw (.columnCount t.schema.name width n)

/-- Inserts a row: one value per column, each stored under its column's affinity. -/
def Table.insert (t : Table) (values : List Value) : Except EngineError Table := do
  t.checkArity values.length
  let row := (t.schema.columns.zip values).map fun (c, v) => v.withAffinity c.affinity
  pure { t with rows := t.rows ++ [row] }

/-- A query prepared against a table: its plan, after the text, the statement, the tail and
the parameters are checked in that order. -/
def prepareQuery (t : Table) (sql : String) : Except Refusal Plan := do
  checkText sql
  let (q, params, tail) ← (parseSelect sql).mapError fun e => .prepare (.malformed e)
  let plan ← (q.plan t.schema).mapError .prepare
  if !tailIsBlank .blank tail.toList then throw .severalStatements
  if params != 0 then throw (.unboundParameters params)
  pure plan

/-- What a query gives: a refusal, or its column names and what it delivered. -/
inductive QueryResult where
  | refused (r : Refusal)
  | ran (names : List String) (delivery : Delivery)

/-- Prepares and runs a query over a table. -/
def Table.query (t : Table) (session : Session) (sql : String) : QueryResult :=
  match prepareQuery t sql with
  | .error r => .refused r
  | .ok plan => .ran (plan.columns.map (·.2)) (plan.run t session)

end Tabula.Sql
