import Tabula.Sql.Token

/-!
# The syntax of queries

An expression is a tree of literals, names, parameters, operators, function calls and the
special forms `CASE`, `CAST`, `BETWEEN`, `IN`, `LIKE`, `IS`. Literals keep the text they were
written with, so that two expressions written alike are equal as trees. Names are resolved
against the table later: a resolved name is a column index (with the column's affinity), and
a resolved aggregate call is the index of its accumulator.

A query is one `SELECT` (or one row of `VALUES`): result columns, the tables, subqueries and
table functions it reads, joined, a filter, grouping, a group filter, an ordering and a limit.
Further queries may follow it, their rows combined with its own by `UNION`, `UNION ALL`,
`INTERSECT` or `EXCEPT`; the ordering and limit of the last of them then apply to all the rows.
Named queries of a `WITH` clause stand before it. Each result column remembers the text it was
written with, which names it when it has no alias. Subqueries stand inside expressions too, as a
value, after `EXISTS`, or after `IN`; a call may carry a `FILTER` clause and an `OVER`
clause, which makes it a window function. Resolution replaces subqueries by the indices of
their plans, and names of an enclosing query by `outer` references.
-/

namespace Tabula.Sql

/-- Operators with one operand. -/
inductive UnaryOp where
  | neg
  | pos
  | not
  | bitNot
  deriving Repr, BEq, DecidableEq, Inhabited

/-- Operators with two operands. -/
inductive BinaryOp where
  | or
  | and
  | eq
  | ne
  /-- `IS`: equality where nothing equals nothing. -/
  | is
  /-- `IS NOT`: inequality where nothing equals nothing. -/
  | isNot
  | lt
  | le
  | gt
  | ge
  | bitAnd
  | bitOr
  | shiftLeft
  | shiftRight
  | add
  | sub
  | mul
  | div
  | rem
  | concat
  /-- `->` and `->>`, which follow a path into JSON text: as JSON text, or as a value when
  `asValue`. -/
  | extract (asValue : Bool)
  deriving Repr, BEq, DecidableEq, Inhabited

/-- The pattern operators. -/
inductive PatternOp where
  | like
  | glob
  deriving Repr, BEq, DecidableEq, Inhabited

/-- How a window frame is measured: in rows, in ordering values, or in groups of peers. -/
inductive FrameUnit where
  | rows
  | range
  | groups
  deriving Repr, BEq, DecidableEq, Inhabited

/-- The rows a window frame leaves out around the current row. -/
inductive FrameExclusion where
  | noOthers
  | currentRow
  | group
  | ties
  deriving Repr, BEq, DecidableEq, Inhabited

/-- How a query's rows are combined with the rows of the queries before it. -/
inductive SetOp where
  | union
  | unionAll
  | intersect
  | except
  deriving Repr, BEq, DecidableEq, Inhabited

/-- The words of a set operator. -/
def SetOp.words : SetOp → String
  | .union => "UNION"
  | .unionAll => "UNION ALL"
  | .intersect => "INTERSECT"
  | .except => "EXCEPT"

/-- How an item of `FROM` joins the items before it: `NATURAL` joins on the columns they
share; `left` keeps the rows before it that match none of its rows, `right` keeps its rows
that match none before it. -/
structure JoinOp where
  natural : Bool
  left : Bool
  right : Bool
  deriving Repr, BEq, DecidableEq, Inhabited

/-- The plain join: every pair of rows that the condition accepts. -/
def JoinOp.inner : JoinOp := ⟨false, false, false⟩

mutual

/-- An expression. -/
inductive Expr where
  | null
  /-- An integer literal, as written (decimal or hexadecimal). -/
  | integer (text : String)
  /-- A literal with a point or an exponent, as written. -/
  | real (text : String)
  | text (s : String)
  | blob (bytes : List UInt8)
  /-- A parameter, by its number. -/
  | parameter (index : Nat)
  /-- A name; `quoted` when it was written in double quotes. -/
  | name (id : String) (quoted : Bool)
  /-- A name qualified by a table name, which may itself be qualified by the name of its
  database. -/
  | qualified (database : Option String) (table column : String)
  /-- A resolved column of the table. -/
  | column (index : Nat) (aff : Affinity)
  /-- The row number of the table. -/
  | rowid
  /-- `TRUE` or `FALSE` written as a name. -/
  | bool (b : Bool)
  | unary (op : UnaryOp) (arg : Expr)
  | binary (op : BinaryOp) (lhs rhs : Expr)
  | collate (arg : Expr) (coll : String)
  | cast (arg : Expr) (typeName : String)
  /-- A function call; `distinct` when its arguments were marked `DISTINCT`. A call written
  with `*` has no arguments. -/
  | call (fn : String) (distinct : Bool) (args : List Expr)
  /-- A function call with a `FILTER` clause, an `OVER` clause, or both. -/
  | windowed (fn : String) (distinct : Bool) (args : List Expr) (filter : Option Expr)
      (window : Option Window)
  /-- A resolved aggregate call, by the index of its accumulator. -/
  | aggregate (index : Nat)
  /-- A resolved window function call, by its index among the query's windowed calls. -/
  | window (index : Nat)
  /-- `x ISNULL` (or `x NOTNULL` when negated). -/
  | isNull (arg : Expr) (negated : Bool)
  /-- `x IS [NOT] TRUE` or `x IS [NOT] FALSE`. -/
  | truth (arg : Expr) (value negated : Bool)
  | pattern (op : PatternOp) (negated : Bool) (subject pat : Expr) (escape : Option Expr)
  | between (arg lo hi : Expr) (negated : Bool)
  | inList (arg : Expr) (items : List Expr) (negated : Bool)
  | case (operand : Option Expr) (branches : List (Expr × Expr)) (otherwise : Option Expr)
  /-- A parenthesised list of two or more expressions. -/
  | vector (items : List Expr)
  /-- A subquery that stands for the first column of its first row. -/
  | subquery (q : Select)
  /-- `EXISTS (…)`: whether a subquery has a row. -/
  | exists (q : Select)
  /-- `x IN (SELECT …)`. -/
  | inQuery (arg : Expr) (q : Select) (negated : Bool)
  /-- A resolved subquery's value, by the index of its plan; `head` is its first result
  column, which gives the value its affinity and collation. -/
  | queryValue (index : Nat) (head : Expr)
  /-- A resolved `EXISTS`, by the index of the subquery's plan. -/
  | queryExists (index : Nat)
  /-- A resolved `x IN (SELECT …)`, by the index of the subquery's plan and its first
  result column. -/
  | queryIn (arg : Expr) (index : Nat) (head : Expr) (negated : Bool)
  /-- A resolved subquery of several columns compared as a row value: its first row, by the
  index of its plan; `heads` are its result columns, which give each value its affinity and
  collation. -/
  | queryRow (index : Nat) (heads : List Expr)
  /-- A resolved `(x, y, …) IN (SELECT …)`: the row value `arg` (a list of expressions or a
  subquery's row) against the rows of the subquery with the given plan index and result
  columns. -/
  | rowIn (arg : Expr) (index : Nat) (heads : List Expr) (negated : Bool)
  /-- An expression of an enclosing query, `depth` levels out. -/
  | outer (depth : Nat) (e : Expr)
  /-- `RAISE (…)`, which only a trigger may use. -/
  | raise

/-- Where a window frame starts or ends. -/
inductive FrameBound where
  | unboundedPreceding
  | preceding (offset : Expr)
  | currentRow
  | following (offset : Expr)
  | unboundedFollowing

/-- The frame of a window: the rows around the current one that a function sees. -/
structure Frame where
  unit : FrameUnit
  start : FrameBound
  finish : FrameBound
  exclude : FrameExclusion
  /-- Whether the frame was left unwritten. -/
  implicit : Bool

/-- The window of an `OVER` clause: a named window, or partitions, an ordering within them,
and a frame. `base` names a window the clause builds on. -/
structure Window where
  name : Option String
  base : Option String
  partition : List Expr
  order : List OrderTerm
  frame : Frame

/-- A term of an ordering. -/
structure OrderTerm where
  e : Expr
  descending : Bool
  /-- `some true` for `NULLS FIRST`, `some false` for `NULLS LAST`. -/
  nullsFirst : Option Bool

/-- A column of a query's result. -/
inductive ResultColumn where
  /-- `*`: every column of the table. -/
  | all
  /-- `t.*`: every column of the named table. -/
  | allOf (table : String)
  /-- An expression, with its alias and the text it was written with. -/
  | expr (e : Expr) (asName : Option String) (span : String)

/-- What an item of `FROM` reads: a table, a table function's rows, a subquery, or items
joined inside parentheses. -/
inductive FromSource where
  | table (name : String)
  | function (name : String) (args : List Expr)
  | query (q : Select)
  | nested (items : List FromItem)

/-- An item of `FROM`: what it reads, under an optional alias, how it joins the items
before it, and its `ON` condition or `USING` columns; for a table read by name, the database
written before the name and the index of an `INDEXED BY` clause. -/
structure FromItem where
  source : FromSource
  asName : Option String
  join : JoinOp
  on : Option Expr
  usingColumns : Option (List String)
  database : Option String
  indexedBy : Option String

/-- A named query of a `WITH` clause, with the names it gives its columns, if any. -/
structure CommonTable where
  name : String
  columnNames : Option (List String)
  query : Select

/-- A query: one `SELECT`, or one row of `VALUES` (`values`), with the queries combined
with it and the named queries it may read. -/
structure Select where
  distinct : Bool
  columns : List ResultColumn
  source : List FromItem
  filter : Option Expr
  groupBy : List Expr
  having : Option Expr
  /-- The windows that the `WINDOW` clause names. -/
  windows : List (String × Window)
  orderBy : List OrderTerm
  limit : Option Expr
  offset : Option Expr
  values : Bool
  /-- The queries whose rows are combined with this one's, in order. -/
  compound : List (SetOp × Select)
  /-- The named queries of its `WITH` clause. -/
  common : List CommonTable

end

instance : Inhabited Expr := ⟨.null⟩

instance : Inhabited Select :=
  ⟨⟨false, [], [], none, [], none, [], [], none, none, false, [], []⟩⟩

deriving instance Repr for Expr, FrameBound, Frame, Window, OrderTerm, ResultColumn, FromSource,
  FromItem, CommonTable, Select

deriving instance BEq for Expr, FrameBound, Frame, Window, OrderTerm, ResultColumn, FromSource,
  FromItem, CommonTable, Select

/-- The expressions directly inside an expression, in the order they are read: a call's
arguments, then its filter, partitions and ordering. Subqueries and expressions of enclosing
queries are not looked into. -/
def Expr.children : Expr → List Expr
  | .unary _ a | .collate a _ | .cast a _ | .isNull a _ | .truth a _ _ => [a]
  | .binary _ a b => [a, b]
  | .call _ _ args => args
  | .windowed _ _ args filter win =>
    args ++ filter.toList ++ match win with
      | some w => w.partition ++ w.order.map (·.e)
      | none => []
  | .pattern _ _ s p esc => [p, s] ++ esc.toList
  | .between a lo hi _ => [a, lo, hi]
  | .inList a items _ => a :: items
  | .case op bs els => op.toList ++ bs.flatMap (fun (w, t) => [w, t]) ++ els.toList
  | .vector items => items
  | .inQuery a _ _ | .queryIn a _ _ _ | .rowIn a _ _ _ => [a]
  | _ => []

/-- Rebuilds an expression with each expression directly inside it (as `Expr.children` lists
them, in the same order) replaced through `f`. -/
def Expr.traverse {m : Type → Type} [Monad m] (f : Expr → m Expr) : Expr → m Expr
  | .unary op a => do pure (.unary op (← f a))
  | .collate a c => do pure (.collate (← f a) c)
  | .cast a t => do pure (.cast (← f a) t)
  | .isNull a n => do pure (.isNull (← f a) n)
  | .truth a v n => do pure (.truth (← f a) v n)
  | .binary op a b => do
    let a' ← f a
    pure (.binary op a' (← f b))
  | .call fn d args => do pure (.call fn d (← args.mapM f))
  | .windowed fn d args filter win => do
    let args' ← args.mapM f
    let filter' ← filter.mapM f
    let win' ← win.mapM fun w => do
      let partition ← w.partition.mapM f
      let order ← w.order.mapM fun t => do pure { t with e := ← f t.e }
      pure { w with partition, order }
    pure (.windowed fn d args' filter' win')
  | .pattern op n s p esc => do
    let p' ← f p
    let s' ← f s
    pure (.pattern op n s' p' (← esc.mapM f))
  | .between a lo hi n => do
    let a' ← f a
    let lo' ← f lo
    pure (.between a' lo' (← f hi) n)
  | .inList a items n => do
    let a' ← f a
    pure (.inList a' (← items.mapM f) n)
  | .case op bs els => do
    let op' ← op.mapM f
    let bs' ← bs.mapM fun (w, t) => do
      let w' ← f w
      pure (w', ← f t)
    pure (.case op' bs' (← els.mapM f))
  | .vector items => do pure (.vector (← items.mapM f))
  | .inQuery a q n => do pure (.inQuery (← f a) q n)
  | .queryIn a i h n => do pure (.queryIn (← f a) i h n)
  | .rowIn a i hs n => do pure (.rowIn (← f a) i hs n)
  | e => pure e

/-- A column of a table being created: its name and its declared type, as written. -/
structure ColumnDef where
  name : String
  typeName : String
  deriving Repr, BEq, Inhabited

end Tabula.Sql
