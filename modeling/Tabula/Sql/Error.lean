import Tabula.Sql.Parse

/-!
# Why a statement fails

A statement fails while it is read (syntax), while its names are resolved against the table,
or while it runs. Each cause is a constructor; `EngineError.message` gives its text and
`EngineError.kind` the family it belongs to: most failures are operational, a value of the
wrong type where an integer is required is an integrity failure, and a value that grows too
large is a data failure.
-/

namespace Tabula.Sql

/-- The family of an engine failure. -/
inductive ErrorKind where
  | operational
  | integrity
  | data
  deriving Repr, BEq, DecidableEq

/-- Why a statement failed. -/
inductive EngineError where
  | malformed (e : ParseError)
  | noSuchTable (name : String)
  /-- An `INDEXED BY` clause naming an index that does not exist. -/
  | noSuchIndex (name : String)
  /-- Arguments given to a table or named query, which is not a table function. -/
  | notAFunction (name : String)
  | noTablesSpecified
  /-- A name that is no column; a qualified name is written `t.c`. -/
  | noSuchColumn (name : String)
  | noSuchFunction (name : String)
  | wrongArgumentCount (name : String)
  /-- An aggregate where none may stand, found while resolving names. -/
  | misusedAggregate (name : String)
  /-- An aggregate that is not computed where it stands, found while running. -/
  | strayAggregate (name : String)
  | misusedAliasedAggregate (asName : String)
  | havingWithoutAggregate
  | aggregateInGroupBy
  /-- A column number in `ORDER BY` or `GROUP BY` outside the result columns. -/
  | termOutOfRange (clause : String) (position count : Nat)
  | noSuchCollation (name : String)
  | rowValueMisused
  | distinctAggregateArity
  | hexLiteralTooBig (text : String)
  /-- A construct this engine reads but cannot run. -/
  | unsupported (what : String)
  | integerOverflow
  | patternTooComplex
  | escapeNotSingle
  | datatypeMismatch
  | tooBig
  | columnCount (table : String) (columns values : Nat)
  | expressionTooDeep
  | duplicateColumn (name : String)
  /-- A window function without a window, or a window where none may stand. -/
  | misusedWindow (name : String)
  /-- A scalar function given an `OVER` clause. -/
  | notWindowFunction (name : String)
  /-- A scalar function given a `FILTER` clause. -/
  | filterOnScalar (name : String)
  /-- A `FILTER` clause on a function that is only a window function. -/
  | filterOnWindowFunction
  | noSuchWindow (name : String)
  /-- A window that would replace part of the window it builds on. -/
  | cannotOverride (part window : String)
  | rangeNeedsOneOrder
  | misusedAliasedWindow (asName : String)
  /-- A subquery with the wrong number of result columns for where it stands. -/
  | subselectColumns (got expected : Nat)
  | raiseOutsideTrigger
  /-- A frame offset that is not a non-negative integer (or number, for `RANGE`). -/
  | frameOffset (start numeric : Bool)
  | nthValueArgument
  | ntileArgument
  /-- The second argument of `likelihood` is not a literal probability. -/
  | likelihoodArgument (name : String)
  /-- Loading an extension, which this engine never permits. -/
  | notAuthorized
  /-- A name that is a column of two items read. -/
  | ambiguousColumn (name : String)
  /-- Two queries combined by a set operator give different numbers of columns. -/
  | compoundWidth (op : String)
  /-- Two rows of `VALUES` have different numbers of values. -/
  | valuesWidth
  /-- A term of a compound query's ordering that names none of its result columns. -/
  | orderTermUnmatched (position : Nat)
  /-- A `USING` column that is not a column of both sides of the join. -/
  | usingColumnMissing (name : String)
  /-- A `NATURAL` join that also has an `ON` or `USING` clause. -/
  | naturalWithClause
  /-- A named query that reads itself outside a recursive part. -/
  | circularReference (name : String)
  /-- A named query whose query gives another number of columns than it names. -/
  | commonTableWidth (name : String) (values columns : Nat)
  /-- A table function called with more arguments than it takes. -/
  | tooManyArguments (name : String) (most : Nat)
  /-- A database name that names no attached database. -/
  | unknownDatabase (name : String)
  /-- An error a function raises, by its message. -/
  | functionError (message : String)
  /-- A named query read where its recursion does not allow it: `what` says how. -/
  | recursiveMisuse (what name : String)
  /-- A recursive part of a named query that computes aggregates. -/
  | recursiveAggregate
  deriving Repr, BEq

/-- The English ordinal suffix of a number: `1st`, `2nd`, `3rd`, `4th`, `11th`, `21st`. -/
def ordinal (n : Nat) : String :=
  let x := n % 10
  let suffix :=
    if x ≥ 4 || (n / 10) % 10 = 1 || x = 0 then "th"
    else if x = 1 then "st" else if x = 2 then "nd" else "rd"
  toString n ++ suffix

/-- The text that explains a failure. -/
def EngineError.message : EngineError → String
  | .malformed e => e.message
  | .noSuchTable n => "no such table: " ++ n
  | .noSuchIndex n => "no such index: " ++ n
  | .notAFunction n => "'" ++ n ++ "' is not a function"
  | .noTablesSpecified => "no tables specified"
  | .noSuchColumn n => "no such column: " ++ n
  | .noSuchFunction n => "no such function: " ++ n
  | .wrongArgumentCount n => "wrong number of arguments to function " ++ n ++ "()"
  | .misusedAggregate n => "misuse of aggregate function " ++ n ++ "()"
  | .strayAggregate n => "misuse of aggregate: " ++ n ++ "()"
  | .misusedAliasedAggregate a => "misuse of aliased aggregate " ++ a
  | .havingWithoutAggregate => "HAVING clause on a non-aggregate query"
  | .aggregateInGroupBy => "aggregate functions are not allowed in the GROUP BY clause"
  | .termOutOfRange clause i n =>
    ordinal i ++ " " ++ clause ++ " BY term out of range - should be between 1 and " ++
      toString n
  | .noSuchCollation n => "no such collation sequence: " ++ n
  | .rowValueMisused => "row value misused"
  | .distinctAggregateArity => "DISTINCT aggregates must have exactly one argument"
  | .hexLiteralTooBig t => "hex literal too big: " ++ t
  | .unsupported what => what ++ " are not supported"
  | .integerOverflow => "integer overflow"
  | .patternTooComplex => "LIKE or GLOB pattern too complex"
  | .escapeNotSingle => "ESCAPE expression must be a single character"
  | .datatypeMismatch => "datatype mismatch"
  | .tooBig => "string or blob too big"
  | .columnCount t c v =>
    "table " ++ t ++ " has " ++ toString c ++ " columns but " ++ toString v ++
      " values were supplied"
  | .expressionTooDeep => "Expression tree is too large (maximum depth 1000)"
  | .duplicateColumn n => "duplicate column name: " ++ n
  | .misusedWindow n => "misuse of window function " ++ n ++ "()"
  | .notWindowFunction n => n ++ "() may not be used as a window function"
  | .filterOnScalar n => "FILTER may not be used with non-aggregate " ++ n ++ "()"
  | .filterOnWindowFunction =>
    "FILTER clause may only be used with aggregate window functions"
  | .noSuchWindow n => "no such window: " ++ n
  | .cannotOverride part w => "cannot override " ++ part ++ " of window: " ++ w
  | .rangeNeedsOneOrder =>
    "RANGE with offset PRECEDING/FOLLOWING requires one ORDER BY expression"
  | .misusedAliasedWindow a => "misuse of aliased window function " ++ a
  | .subselectColumns got expected =>
    "sub-select returns " ++ toString got ++ " columns - expected " ++ toString expected
  | .raiseOutsideTrigger => "RAISE() may only be used within a trigger-program"
  | .frameOffset start numeric =>
    "frame " ++ (if start then "starting" else "ending") ++ " offset must be a non-negative " ++
      (if numeric then "number" else "integer")
  | .nthValueArgument => "second argument to nth_value must be a positive integer"
  | .ntileArgument => "argument of ntile must be a positive integer"
  | .likelihoodArgument n =>
    "second argument to " ++ n ++ "() must be a constant between 0.0 and 1.0"
  | .notAuthorized => "not authorized"
  | .ambiguousColumn n => "ambiguous column name: " ++ n
  | .compoundWidth op =>
    "SELECTs to the left and right of " ++ op ++ " do not have the same number of result columns"
  | .valuesWidth => "all VALUES must have the same number of terms"
  | .orderTermUnmatched i =>
    ordinal i ++ " ORDER BY term does not match any column in the result set"
  | .usingColumnMissing n =>
    "cannot join using column " ++ n ++ " - column not present in both tables"
  | .naturalWithClause => "a NATURAL join may not have an ON or USING clause"
  | .circularReference n => "circular reference: " ++ n
  | .commonTableWidth n v c =>
    "table " ++ n ++ " has " ++ toString v ++ " values for " ++ toString c ++ " columns"
  | .tooManyArguments n m => "too many arguments on " ++ n ++ "() - max " ++ toString m
  | .unknownDatabase n =>
    "unknown database '" ++ String.intercalate "''" (n.splitOn "'") ++ "'"
  | .functionError m => m
  | .recursiveMisuse what n => what ++ ": " ++ n
  | .recursiveAggregate => "recursive aggregate queries not supported"

/-- The family of a failure. -/
def EngineError.kind : EngineError → ErrorKind
  | .datatypeMismatch => .integrity
  | .tooBig => .data
  | _ => .operational

/-- Why a statement was refused before it ran. -/
inductive Refusal where
  /-- The statement text holds a NUL character. -/
  | nullCharacter
  /-- The engine could not prepare the statement. -/
  | prepare (e : EngineError)
  /-- More than blanks and comments follow the first statement. -/
  | severalStatements
  /-- The statement has parameters and no values were given for them. -/
  | unboundParameters (count : Nat)
  deriving Repr, BEq

/-- The text that explains a refusal. -/
def Refusal.message : Refusal → String
  | .nullCharacter => "the query contains a null character"
  | .prepare e => e.message
  | .severalStatements => "You can only execute one statement at a time."
  | .unboundParameters n =>
    "Incorrect number of bindings supplied. The current statement uses " ++ toString n ++
      ", and there are 0 supplied."

example : ordinal 1 = "1st" ∧ ordinal 12 = "12th" ∧ ordinal 23 = "23rd" ∧
    ordinal 111 = "111th" := by
  decide

end Tabula.Sql
