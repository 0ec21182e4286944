import Tabula.Sql.Eval

/-!
# Resolving the names of a query

Resolution turns the names of a query into columns of what it reads and checks its functions,
then plans the query: its subqueries become plans of their own, its aggregate calls become
accumulators and its window function calls become windowed calls.

A query reads items: the stored table, named queries of `WITH` clauses, table functions and
subqueries, joined one after another into one row. A name is, in this order: a column of one
of the items (ASCII case ignored; a column of two items is ambiguous, save one that a `USING`
or `NATURAL` join merged), the row number (`rowid`, `oid`, `_rowid_`) of the one item that
has one, or the alias of a result column (where aliases are visible); failing all three, the
same is tried in each enclosing query, innermost first; failing that, a name written in
double quotes is a text and `TRUE`/`FALSE` are truth values. A name found in an enclosing
query is an `outer` reference to it.

The queries of a compound are planned from the last to the first, and must give the same
number of columns; the compound's ordering names its result columns by number, alias or
expression. A named query is planned afresh wherever it is read; one whose last queries read
it (joined by `UNION` or `UNION ALL`) is recursive.

Errors are noted as they are found, the last noted being the statement's error, and
resolution stops at the first point that checks for a noted error: most expressions check
when they are entered, a function call does not (its arguments are resolved whatever they
give), and every part of a query (each result column, the filter, each ordering term) checks
when it ends. A name that is found nowhere is noted and stops resolution at once. Errors that
only compiling the statement would find (a subquery of the wrong width, an aggregate where it
is not computed) are kept aside and reported only when resolution itself succeeds. A row
value is checked when it is compared (the two sides must have one size), and is misused
anywhere else; a subquery compared as a row value stands for its first row.

The parts of a query are resolved in the order `LIMIT`/`OFFSET`, the subqueries it reads,
result columns, table function arguments, `HAVING`, `WHERE` and the join conditions,
`ORDER BY`, `GROUP BY`. The conditions of inner joins join the filter; those of outer joins
stay with their join. Before any of this, every query of the statement (the outer one first)
is checked for what its names cannot find.
-/

namespace Tabula.Sql

/-- The columns of a table: names and affinities. -/
structure TableSchema where
  name : String
  columns : List ColumnDef
  /-- The statement that created the table, as the schema table keeps it. -/
  definition : String
  deriving Repr, Inhabited

/-- The affinity of a declared column. -/
def ColumnDef.affinity (c : ColumnDef) : Affinity := Affinity.ofTypeName c.typeName

/-- A value a setting of the engine holds. -/
inductive SettingValue where
  | number (n : Int)
  | word (s : String)
  deriving Repr, BEq, DecidableEq, Inhabited

/-- A setting of the engine, which its pragma table shows as one row of one column: the
table's name less its prefix, the column's name, whether the setting belongs to a database
(so that the table takes a database's name as its argument), and its value in a fresh
session of this build. -/
structure Setting where
  name : String
  column : String
  perDatabase : Bool
  value : SettingValue
  deriving Repr, BEq, DecidableEq, Inhabited

/-- The settings the engine shows, with their values in a fresh session on a new database
file that holds one table: pages of 4096 bytes, a cache of 2000 KiB (spilling after 483
pages), a rollback journal that is deleted, full synchronisation, a busy timeout of five
seconds, and secure deletion and recursive triggers on, as this build chose them. -/
def settings : List Setting :=
  let flag := fun (name : String) (on : Bool) =>
    (⟨name, name, false, .number (if on then 1 else 0)⟩ : Setting)
  let own := fun (name : String) (v : SettingValue) => (⟨name, name, true, v⟩ : Setting)
  [⟨"encoding", "encoding", false, .word "UTF-8"⟩,
   ⟨"user_version", "user_version", false, .number 0⟩,
   ⟨"application_id", "application_id", false, .number 0⟩,
   ⟨"schema_version", "schema_version", false, .number 1⟩,
   ⟨"data_version", "data_version", false, .number 1⟩,
   ⟨"freelist_count", "freelist_count", false, .number 0⟩,
   ⟨"busy_timeout", "timeout", false, .number 5000⟩,
   ⟨"temp_store", "temp_store", false, .number 0⟩,
   ⟨"soft_heap_limit", "soft_heap_limit", false, .number 0⟩,
   ⟨"hard_heap_limit", "hard_heap_limit", false, .number 0⟩,
   ⟨"threads", "threads", false, .number 0⟩,
   ⟨"analysis_limit", "analysis_limit", false, .number 0⟩,
   own "page_size" (.number 4096), own "auto_vacuum" (.number 0),
   own "cache_size" (.number (-2000)), own "cache_spill" (.number 483),
   own "journal_mode" (.word "delete"), own "journal_size_limit" (.number (-1)),
   own "synchronous" (.number 2), own "locking_mode" (.word "normal"),
   own "max_page_count" (.number 1073741823),
   flag "foreign_keys" false, flag "automatic_index" true, flag "query_only" false,
   flag "secure_delete" true, flag "trusted_schema" true, flag "recursive_triggers" true,
   flag "cell_size_check" false, flag "legacy_alter_table" false,
   flag "reverse_unordered_selects" false, flag "writable_schema" false,
   flag "defer_foreign_keys" false, flag "ignore_check_constraints" false,
   flag "fullfsync" false, flag "checkpoint_fullfsync" false,
   flag "short_column_names" true, flag "full_column_names" false,
   flag "count_changes" false, flag "empty_result_callbacks" false]

/-- The pragma tables that list facts of the schema and of the engine: the indexes of a
table and the columns of an index (none here, the one table having no index), foreign keys
and their violations (none), the outcome of an integrity check, the work an optimisation
would do (none), the tables of each database, and the collations. -/
inductive Listing where
  | indexList
  | indexInfo
  | indexXInfo
  | foreignKeyList
  | foreignKeyCheck
  | integrityCheck
  | quickCheck
  | optimize
  | tableList
  | collationList
  deriving Repr, BEq, DecidableEq, Inhabited

/-- The listing a pragma table's name, less its prefix, reads. -/
def Listing.ofName? : String → Option Listing
  | "index_list" => some .indexList
  | "index_info" => some .indexInfo
  | "index_xinfo" => some .indexXInfo
  | "foreign_key_list" => some .foreignKeyList
  | "foreign_key_check" => some .foreignKeyCheck
  | "integrity_check" => some .integrityCheck
  | "quick_check" => some .quickCheck
  | "optimize" => some .optimize
  | "table_list" => some .tableList
  | "collation_list" => some .collationList
  | _ => none

/-- The columns of a listing's rows, then its hidden columns: the argument (a table's or an
index's name) and the database's name, where the listing takes them. -/
def Listing.columns : Listing → List String × List String
  | .indexList => (["seq", "name", "unique", "origin", "partial"], ["arg", "schema"])
  | .indexInfo => (["seqno", "cid", "name"], ["arg", "schema"])
  | .indexXInfo => (["seqno", "cid", "name", "desc", "coll", "key"], ["arg", "schema"])
  | .foreignKeyList =>
    (["id", "seq", "table", "from", "to", "on_update", "on_delete", "match"], ["arg", "schema"])
  | .foreignKeyCheck => (["table", "rowid", "parent", "fkid"], ["arg", "schema"])
  | .integrityCheck => (["integrity_check"], ["arg", "schema"])
  | .quickCheck => (["quick_check"], ["arg", "schema"])
  | .optimize => (["optimize"], ["arg"])
  | .tableList => (["schema", "name", "type", "ncol", "wr", "strict"], ["arg"])
  | .collationList => (["seq", "name"], [])

/-- The table functions the engine knows, which give rows for their arguments: the parts of a
JSON text (`json_each` one level, `json_tree` all levels), the columns of a table
(`pragma_table_info`, and `pragma_table_xinfo` with hidden ones marked), the options the
engine was built with, and the other pragma tables: listings and settings. -/
inductive TableFunction where
  | jsonEach
  | jsonTree
  | tableInfo
  | tableXInfo
  | compileOptions
  | listing (l : Listing)
  | setting (s : Setting)
  /-- The schema table of the main database (the temporary one when `temp`), which the
  engine reads as a table without arguments. -/
  | schema (temp : Bool)
  deriving Repr, BEq, DecidableEq, Inhabited

/-- The table function a name calls, case ignored. -/
def TableFunction.ofName? (name : String) : Option TableFunction :=
  match lowerName name with
  | "json_each" => some .jsonEach
  | "json_tree" => some .jsonTree
  | "pragma_table_info" => some .tableInfo
  | "pragma_table_xinfo" => some .tableXInfo
  | "pragma_compile_options" => some .compileOptions
  | n =>
    if "pragma_".isPrefixOf n then
      let rest := String.ofList (n.toList.drop 7)
      ((Listing.ofName? rest).map .listing) <|>
        ((settings.find? (·.name == rest)).map .setting)
    else none

/-- The columns of a table function's rows: those that `*` shows, then the hidden ones that
hold its arguments. -/
def TableFunction.columns : TableFunction → List String × List String
  | .jsonEach | .jsonTree =>
    (["key", "value", "type", "atom", "id", "parent", "fullkey", "path"], ["json", "root"])
  | .tableInfo => (["cid", "name", "type", "notnull", "dflt_value", "pk"], ["arg", "schema"])
  | .tableXInfo =>
    (["cid", "name", "type", "notnull", "dflt_value", "pk", "hidden"], ["arg", "schema"])
  | .compileOptions => (["compile_options"], [])
  | .listing l => l.columns
  | .setting s => ([s.column], if s.perDatabase then ["schema"] else [])
  | .schema _ => (["type", "name", "tbl_name", "rootpage", "sql"], [])

/-- The affinities of a table function's columns, in the order of `TableFunction.columns`:
the schema table declares its columns, the functions leave theirs untyped. -/
def TableFunction.affinities (f : TableFunction) : List Affinity :=
  match f with
  | .schema _ => [.text, .text, .text, .integer, .text]
  | f => (f.columns.1 ++ f.columns.2).map fun _ => .blob

/-- The database a table function's rows belong to, as a qualified column name writes it: the
temporary database for its schema table, else the main one. -/
def TableFunction.database : TableFunction → String
  | .schema true => "temp"
  | _ => "main"

/-- Which schema table a name reads in a database, if one: `some false` for the main
database's (`sqlite_master`, or `sqlite_schema`), `some true` for the temporary database's
(`sqlite_temp_master`, or `sqlite_temp_schema`). Without a database each name reads its own;
in `main` only the main names count, and in `temp` every one of them reads the temporary
database's. Names and databases are matched with ASCII case ignored. -/
def schemaTableOf? (database : Option String) (name : String) : Option Bool :=
  let n := lowerName name
  let mainName := n == "sqlite_master" || n == "sqlite_schema"
  let tempName := n == "sqlite_temp_master" || n == "sqlite_temp_schema"
  match database.map lowerName with
  | none => if mainName then some false else if tempName then some true else none
  | some "main" => if mainName then some false else none
  | some "temp" => if mainName || tempName then some true else none
  | some _ => none

/-- A table's name as an error shows it: after its database, when one was written. -/
def shownTableName (database : Option String) (name : String) : String :=
  match database with
  | some d => d ++ "." ++ name
  | none => name

/-- One item of what a query reads, as names see it: the names it goes by, the database its
table belongs to (none for a subquery), its columns with their affinities (of which the first
`visible` are those that `*` shows), where its first column stands in the row the query
reads, how its row number is read if names can reach it, and the columns by which a `USING`
or `NATURAL` join merged it with an item before it. -/
structure Relation where
  names : List String
  database : Option String
  columns : List (String × Affinity)
  visible : Nat
  offset : Nat
  rowid : Option Expr
  merged : List String

/-- What names can refer to while an expression is resolved: the items the query reads, the
result column aliases (where they are visible), whether aggregates and window functions may
stand here, the windows the query's `WINDOW` clause defines, and the scopes of the enclosing
queries, innermost first. -/
structure NameScope where
  relations : List Relation
  aliases : List (String × Expr)
  allowAggregates : Bool
  allowWindows : Bool
  windowDefs : List (String × Window)
  enclosing : List NameScope

/-- Whether a name is one of the names of the row number. -/
def isRowidName (n : String) : Bool :=
  sameName n "rowid" || sameName n "oid" || sameName n "_rowid_"

/-- Whether an item answers to a qualifying table name, if one is given, and to the name of
its database, if one is given. -/
def Relation.answersTo (r : Relation) (database table : Option String) : Bool :=
  (match database with
    | some d => r.database.any (sameName · d)
    | none => true) &&
  (match table with
    | some t => r.names.any (sameName · t)
    | none => true)

/-- A column's name as an error shows it: after its table and database, where they were
written. -/
def shownColumnName (database table : Option String) (id : String) : String :=
  match database, table with
  | some d, some t => d ++ "." ++ t ++ "." ++ id
  | _, some t => t ++ "." ++ id
  | _, none => id

/-- A column of an item, by name. -/
def Relation.lookupColumn (r : Relation) (id : String) : Option Expr :=
  match r.columns.zipIdx.find? fun ((n, _), _) => sameName n id with
  | some ((_, aff), i) => some (.column (r.offset + i) aff)
  | none => none

/-- The columns of the items that answer to the qualifying names and have a column of that
name; of a column merged into an item before it by a join, only the first is kept. -/
def columnHits (rs : List Relation) (database table : Option String) (id : String) :
    List Expr :=
  (rs.filter (·.answersTo database table)).foldl (fun hits r =>
    match r.lookupColumn id with
    | some e => if !hits.isEmpty && r.merged.any (sameName · id) then hits else hits ++ [e]
    | none => hits) []

/-- How deep resolution and other walks over expressions may descend. -/
def walkFuel : Nat := 100000

/-- Whether some expression inside `e` (`e` included) satisfies `p`; subqueries are not
looked into. -/
def Expr.anyInside (p : Expr → Bool) : Nat → Expr → Bool
  | 0, _ => false
  | fuel + 1, e => p e || e.children.any (Expr.anyInside p fuel)

/-- The values `f` gives for the expressions inside `e`, in reading order with `e` first. -/
def Expr.gatherInside {α : Type} (f : Expr → Option α) : Nat → Expr → List α
  | 0, _ => []
  | fuel + 1, e => (f e).toList ++ e.children.flatMap (Expr.gatherInside f fuel)

/-- The first value `f` gives for an expression inside `e`, in reading order with `e`
first. -/
def Expr.findInside {α : Type} (f : Expr → Option α) : Nat → Expr → Option α
  | 0, _ => none
  | fuel + 1, e =>
    match f e with
    | some a => some a
    | none => e.children.findSome? (Expr.findInside f fuel)

/-- The name of an aggregate call without a window (a filter allowed). -/
def Expr.aggregateName? : Expr → Option String
  | .call f _ args | .windowed f _ args _ none =>
    if FunctionRole.of f args.length == .aggregate then some f else none
  | _ => none

/-- The name of a function called over a window. -/
def Expr.windowName? : Expr → Option String
  | .windowed f _ _ _ (some _) => some f
  | _ => none

/-- Whether an expression calls an aggregate function outside a window. -/
def Expr.hasAggregate (e : Expr) : Bool :=
  e.anyInside (fun x => x.aggregateName?.isSome || x matches .aggregate _) walkFuel

/-- Whether an expression calls a window function. -/
def Expr.hasWindow (e : Expr) : Bool :=
  e.anyInside (fun x => x matches .windowed _ _ _ _ (some _) || x matches .window _) walkFuel

/-- The name of the first aggregate function an expression calls. -/
def Expr.firstAggregate? (e : Expr) : Option String := e.findInside Expr.aggregateName? walkFuel

/-- The subqueries inside an expression, in the order they are met; those inside them are
not listed. -/
def Expr.selects : Nat → Expr → List Select
  | 0, _ => []
  | fuel + 1, e =>
    let inner := e.children.flatMap (Expr.selects fuel)
    match e with
    | .subquery q | .exists q => [q]
    | .inQuery _ q _ => inner ++ [q]
    | _ => inner

/-- The expressions written in an item of `FROM`: the arguments of a table function and the
`ON` condition, those of items inside parentheses first. -/
def FromItem.exprs : Nat → FromItem → List Expr
  | 0, _ => []
  | fuel + 1, item =>
    let inner := match item.source with
      | .function _ args => args
      | .nested items => items.flatMap (FromItem.exprs fuel)
      | _ => []
    inner ++ item.on.toList

/-- The subqueries inside the expressions of a query, in the order the query's parts are
read: result columns, filter, join conditions, grouping, group filter, ordering, limit and
offset, and last the arguments of table functions. -/
def Select.exprSelects (q : Select) : List Select :=
  let cols := q.columns.flatMap fun c => match c with
    | .expr e _ _ => [e]
    | _ => []
  let ons := q.source.flatMap fun item => item.on.toList
  let args := (q.source.flatMap (FromItem.exprs walkFuel)).filter fun e => !ons.contains e
  let exprs := cols ++ q.filter.toList ++ ons ++ q.groupBy ++ q.having.toList ++
    q.orderBy.map (·.e) ++ q.limit.toList ++ q.offset.toList ++ args
  exprs.flatMap (Expr.selects walkFuel)

/-- What a query may read besides its own subqueries: the stored table, the `WITH` clauses
in scope (innermost first), the named queries being read (which may not be read again inside
themselves, each with the words of the error that reading it gives), and, in the recursive
part of a named query, the name and columns of the rows it reads of itself. -/
structure Catalog where
  schema : TableSchema
  withs : List (List CommonTable)
  active : List (String × String)
  working : Option (String × List (String × Affinity))

/-- The error of reading a named query that is being read, given the words the reading
gives. -/
def readingError (what name : String) : EngineError :=
  if what == "circular reference" then .circularReference name else .recursiveMisuse what name

/-- The catalog inside a query with a `WITH` clause. -/
def Catalog.enter (c : Catalog) (ctes : List CommonTable) : Catalog :=
  if ctes.isEmpty then c else { c with withs := ctes :: c.withs }

/-- The named query in scope with a name (case ignored), with the catalog its body reads:
the `WITH` clause that defines it and those around that one. -/
def Catalog.find? (c : Catalog) (name : String) : Option (CommonTable × Catalog) :=
  go c.withs
where
  /-- The search through the clauses left. -/
  go : List (List CommonTable) → Option (CommonTable × Catalog)
    | [] => none
    | w :: rest =>
      match w.find? fun t => sameName t.name name with
      | some t => some (t, { c with withs := w :: rest })
      | none => go rest

/-- The columns of the rows a recursive query reads of itself, if it is the one named. -/
def Catalog.workingColumns? (c : Catalog) (name : String) : Option (List (String × Affinity)) :=
  match c.working with
  | some (w, cols) => if sameName w name then some cols else none
  | none => none

/-- What a name in `FROM` reads. -/
inductive TableRef where
  /-- The rows a recursive named query has reached so far, with their columns. -/
  | working (cols : List (String × Affinity))
  /-- A named query of a `WITH` clause, with the catalog its body reads. -/
  | common (t : CommonTable) (home : Catalog)
  /-- The stored table. -/
  | stored
  /-- The rows of a table function read without arguments, or of a schema table. -/
  | function (f : TableFunction)

/-- Looks up a name in `FROM`, with the database written before it, if any. A name without a
database is first the rows a recursive query has reached so far, then a named query in
scope. Then come the stored table (which is in the database `main`), the schema tables, and
the table functions, which answer to their names whatever database is written. -/
def Catalog.lookup (c : Catalog) (database : Option String) (name : String) :
    Option TableRef :=
  let direct := if database.isSome then none else
    match c.workingColumns? name, c.find? name with
    | some cols, _ => some (TableRef.working cols)
    | none, some (t, home) => some (.common t home)
    | none, none => none
  let stored :=
    if (database.map lowerName).all (· == "main") && sameName name c.schema.name then
      some TableRef.stored
    else none
  direct <|> stored <|> (schemaTableOf? database name).map (TableRef.function ∘ .schema) <|>
    (TableFunction.ofName? name).map .function

/-- The name under which arguments given to what a name in `FROM` reads are refused, when it
is no table function: a named query by the name written, a table by its own name. -/
def TableRef.refusedName (name : String) (schema : TableSchema) : TableRef → Option String
  | .working _ | .common _ _ => some name
  | .stored => some schema.name
  | .function (.schema temp) => some (if temp then "sqlite_temp_master" else "sqlite_master")
  | .function _ => none

/-- Whether an item of `FROM` answers to a table name: its alias, else the table, named
query or table function it reads. -/
def FromItem.answers (item : FromItem) (t : String) : Bool :=
  match item.asName, item.source with
  | some a, _ => sameName a t
  | none, .table n | none, .function n _ => sameName n t
  | none, _ => false

/-- An expression without the `COLLATE` clauses around it. -/
def Expr.withoutCollate : Expr → Expr
  | .collate e _ => e.withoutCollate
  | e => e

/-- The name of a result column before names are resolved: its alias, the name of the column
it reads (a `COLLATE` around it aside), or the text it was written with. -/
def shapeName (e : Expr) (asName : Option String) (span : String) : String :=
  match asName with
  | some a => a
  | none =>
    match e.withoutCollate with
    | .name id _ => id
    | .qualified _ _ c => c
    | _ => span

/-- A column name with its counter suffix `:N` dropped, if it ends in one: a colon that is not
its first character, followed by digits only. -/
def counterStem (n : String) : String :=
  match n.toList with
  | [] => n
  | first :: rest =>
    let digits := (rest.reverse.takeWhile Char.isDigit).length
    let j := rest.length - digits
    let at_j := if j == 0 then first else rest.getD (j - 1) ' '
    if at_j == ':' then String.ofList ((first :: rest).take j) else n

/-- A name not among `taken` (case ignored): the name itself, else its stem with the counter
`:k`, the counter going up from `k` until the name is free. -/
def freshColumnName (taken : List String) : Nat → String → Nat → String
  | 0, n, _ => n
  | fuel + 1, n, k =>
    if taken.any (sameName · n) then
      freshColumnName taken fuel (counterStem n ++ ":" ++ toString k) (k + 1)
    else n

/-- The names of the columns of a query read as a table, given the names of its result
columns: `true` and `false` (case ignored) become `columnN` for the `N`-th column, and a name
already taken by a column before it gets a counter, `a` becoming `a:1`, then `a:2`. -/
def tableColumnNames (names : List String) : List String :=
  names.zipIdx.foldl (fun taken (n, i) =>
    let n := if sameName n "true" || sameName n "false" then "column" ++ toString (i + 1) else n
    taken ++ [freshColumnName taken (taken.length + 1) n 1]) []

/-- The items of `FROM` with the items in parentheses taken apart: a first item in
parentheses without alias or join clause gives its items, one item in parentheses is that
item under the alias and join clause outside, and several become a subquery that reads
them. -/
def normalizeFrom : Nat → List FromItem → List FromItem
  | 0, items => items
  | fuel + 1, items => items.zipIdx.flatMap fun (item, k) =>
    match item.source with
    | .nested inner =>
      let inner := normalizeFrom fuel inner
      if k == 0 && item.asName.isNone && item.on.isNone && item.usingColumns.isNone then inner
      else match inner with
        | [one] =>
          [{ one with asName := item.asName, join := item.join, on := item.on,
                      usingColumns := item.usingColumns }]
        | _ =>
          [{ item with
             source := .query { (default : Select) with columns := [.all], source := inner } }]
    | _ => [item]

/-- The expressions of a query where aggregates and window functions may stand: its result
columns, `HAVING` and ordering. -/
def Select.outputExprs (q : Select) : List Expr :=
  q.columns.filterMap (fun c => match c with
    | .expr e _ _ => some e
    | _ => none) ++ q.having.toList ++ q.orderBy.map (·.e)

/-- Whether a query computes aggregates: it groups, or an aggregate function stands among its
result columns, `HAVING` or ordering. -/
def Select.aggregates (q : Select) : Bool :=
  !q.groupBy.isEmpty || q.outputExprs.any (·.hasAggregate)

/-- Whether a query calls window functions. -/
def Select.windowed (q : Select) : Bool := q.outputExprs.any (·.hasWindow)

/-- Whether a query computes an aggregate whose value may depend on the order of its rows:
any aggregate but `count`, `min` and `max`. -/
def Select.ordersAggregate (q : Select) : Bool :=
  q.outputExprs.any fun e => e.anyInside (fun x => match x.aggregateName? with
    | some f => !(["count", "min", "max"].contains (lowerName f))
    | none => false) walkFuel

/-- The last query of a compound, or the query itself. -/
def Select.lastArm (q : Select) : Select := ((q.compound.getLast?).map (·.2)).getD q

/-- How a query reads the items of its `FROM`, as far as the order of their rows goes:
whether an ordering applies to its rows, how many items it joins, whether it needs rows in the
order they come (an aggregate that depends on it, or window functions), and the clauses that
decide whether a subquery among its items folds into it. `own` marks the query reading its
items itself rather than through a subquery folded into it, and `takesLimit` a reader to which
the limit of a subquery folded into it passes. -/
structure ItemUse where
  ordered : Bool
  items : Nat
  needsOrder : Bool
  aggregates : Bool
  distinct : Bool
  limited : Bool
  filtered : Bool
  inCompound : Bool
  own : Bool
  takesLimit : Bool
  deriving Inhabited

/-- Whether the window that a query computes last sorts its rows: it partitions or orders
them, itself or through the named window it builds on. -/
def Select.windowSorted (q : Select) : Bool :=
  let wins := q.outputExprs.flatMap fun e => (e.gatherInside (fun x => match x with
    | .windowed _ _ _ _ (some w) => some w
    | _ => none) walkFuel)
  let sorts := fun (w : Window) =>
    !w.partition.isEmpty || !w.order.isEmpty ||
      ((w.name <|> w.base).any fun n => q.windows.any fun (m, v) =>
        sameName m n && (!v.partition.isEmpty || !v.order.isEmpty))
  wins.getLast?.any sorts

/-- How a query reads its own items: `ordered` when an ordering applies to its rows (its own,
or for a query of a compound the compound's, which each of its queries sorts by), and
`inCompound` when it is one query of a compound. A query with window functions reads its
items through a query of its own that needs rows in order, sorted as its last window
sorts them; that query computes no window values, so no limit passes to the query. -/
def Select.itemUse (q : Select) (ordered inCompound : Bool) : ItemUse :=
  let items := (normalizeFrom walkFuel q.source).length
  if q.windowed then
    ⟨q.windowSorted, items, true, q.aggregates, false, false, q.filter.isSome, false, true,
      false⟩
  else
    ⟨ordered, items, q.ordersAggregate, q.aggregates, q.distinct, q.limit.isSome,
      q.filter.isSome, inCompound, true, true⟩

/-- Whether a reader leaves the ordering of a subquery among its items idle, so that it is
dropped: the subquery has an ordering but no limit and computes no aggregates, and the reader
either orders its rows itself or joins several items, and does not need rows in order. The
rows of such a subquery then come in the order it reads them. -/
def ItemUse.dropsOrder (r : ItemUse) (sub : Select) : Bool :=
  !sub.orderBy.isEmpty && sub.limit.isNone && !sub.lastArm.aggregates &&
    (r.ordered || r.items > 1) && !r.needsOrder

/-- Whether a subquery among a reader's items, its idle ordering dropped, folds into the
reader, its own items being read as the reader's: a plain query of items without window
functions, aggregates, `DISTINCT` or an offset, whose ordering and limit do not meet the
reader's ordering, limit, filter, joins, grouping or `DISTINCT`; on the right of a `LEFT`
join it reads one item that is no table function, under a reader without `DISTINCT` or
aggregates; and never on the right of a `RIGHT` join. -/
def ItemUse.absorbs (r : ItemUse) (item : FromItem) (sub : Select) : Bool :=
  let items := normalizeFrom walkFuel sub.source
  let limited := sub.limit.isSome
  let ordered := !sub.orderBy.isEmpty
  let leftOk := !item.join.left || (items.length == 1 && !r.distinct && !r.aggregates &&
    !(items.any fun i => i.source matches .function _ _))
  sub.compound.isEmpty && !items.isEmpty && !sub.windowed &&
    !sub.aggregates && !sub.distinct && sub.offset.isNone && !(limited && r.limited) &&
    !(limited && (r.inCompound || r.items > 1 || r.aggregates || r.filtered || r.distinct)) &&
    !(ordered && (r.ordered || r.aggregates)) && leftOk && !item.join.right

/-- The reader of a subquery's items once it has folded into its reader: the reader with the
subquery's items in place of it, and its ordering, limit and filter added. -/
def ItemUse.merge (r : ItemUse) (sub : Select) : ItemUse :=
  { r with ordered := r.ordered || !sub.orderBy.isEmpty,
           items := r.items - 1 + (normalizeFrom walkFuel sub.source).length,
           limited := r.limited || sub.limit.isSome,
           filtered := r.filtered || sub.filter.isSome,
           own := false }

/-- A subquery as a reader reads it: with its idle ordering dropped, the reader of its own
items if it folds into the reader, and the limit that then passes from it to the query at the
head of the fold, if that query takes it. Such a limit counts after that query's ordering, as
the single query the fold makes counts it; the reader cannot have a limit of its own, nor a
filter, joins, grouping or `DISTINCT` that the limit would have to precede. -/
def ItemUse.settle (r : ItemUse) (item : FromItem) (sub : Select) :
    Select × Option ItemUse × Option Expr :=
  let sub := if r.dropsOrder sub then { sub with orderBy := [] } else sub
  if r.absorbs item sub then
    if r.takesLimit && sub.limit.isSome then
      ({ sub with limit := none }, some (r.merge sub), sub.limit)
    else (sub, some (r.merge sub), none)
  else (sub, none, none)

/-- Whether a query reads a named query directly in its `FROM`, and how many times. -/
def Select.readsOf (name : String) (q : Select) : Nat :=
  ((normalizeFrom walkFuel q.source).filter fun item => match item.source with
    | .table n => item.database.isNone && sameName n name
    | _ => false).length

/-- How many of the queries of a named query's body start its recursion, when the body reads
itself: the queries after them each read it directly in `FROM` and are joined by the
operator of the last one, `UNION` or `UNION ALL`. -/
def recursiveSetup (name : String) (q : Select) : Option Nat :=
  match q.compound.getLast? with
  | some (op, _) =>
    if op == .union || op == .unionAll then
      let tail := (q.compound.reverse.takeWhile fun (o, s) => o == op && s.readsOf name > 0).length
      if tail == 0 then none else some (q.compound.length + 1 - tail)
    else none
  | none => none

/-- The columns that `*` shows of each item, given each item's columns: those that a `USING`
or `NATURAL` join merged into an item before it are left out. -/
def shownOf (items : List (FromItem × List String)) : List (FromItem × List String) :=
  items.zipIdx.map fun ((item, cols), k) =>
    let before := (items.take k).flatMap (·.2)
    let merged :=
      if k == 0 then []
      else if item.join.natural then cols.filter fun n => before.any (sameName · n)
      else item.usingColumns.getD []
    (item, cols.filter fun n => !merged.any (sameName · n))

mutual

/-- The names of a query's result columns before names are resolved, `*` expanded into the
columns of what it reads. -/
def Select.shapeNames (c : Catalog) : Nat → Select → List String
  | 0, _ => []
  | fuel + 1, q =>
    let c := c.enter q.common
    let items := (normalizeFrom walkFuel q.source).map fun item =>
      (item, FromItem.shapeColumns c fuel item)
    q.columns.flatMap fun col => match col with
      | .expr e asName span => [shapeName e asName span]
      | .all => (shownOf items).flatMap (·.2)
      | .allOf t => (items.filter (·.1.answers t)).flatMap (·.2)

/-- The names of the columns that `*` shows of an item of `FROM`, before names are
resolved. -/
def FromItem.shapeColumns (c : Catalog) : Nat → FromItem → List String
  | 0, _ => []
  | fuel + 1, item =>
    match item.source with
    | .table name =>
      match c.lookup item.database name with
      | some (.working cols) => cols.map (·.1)
      | some (.common t home) =>
        tableColumnNames (t.columnNames.getD (Select.shapeNames home fuel t.query))
      | some .stored => c.schema.columns.map (·.name)
      | some (.function f) => f.columns.1
      | none => []
    | .function name _ => ((TableFunction.ofName? name).map (·.columns.1)).getD []
    | .query sub => tableColumnNames (Select.shapeNames c fuel sub)
    | .nested items => items.flatMap (FromItem.shapeColumns c fuel)

end

/-- The number of result columns of a query, `*` expanded. -/
def Select.width (c : Catalog) (fuel : Nat) (q : Select) : Nat := (q.shapeNames c fuel).length

/-- An aggregate call: the function, whether its arguments are distinct, the arguments, its
filter, and the collation the arguments bring. -/
structure AggregateCall where
  fn : String
  distinct : Bool
  args : List Expr
  filter : Option Expr
  coll : Collation
  deriving Repr, Inhabited

/-- Whether two aggregate calls are the same call. -/
def AggregateCall.same (a b : AggregateCall) : Bool :=
  lowerName a.fn == lowerName b.fn && a.distinct == b.distinct && a.args == b.args &&
    a.filter == b.filter

/-- A term of a resolved ordering. -/
structure SortKey where
  e : Expr
  descending : Bool
  nullsFirst : Option Bool
  coll : Collation
  deriving Repr, BEq, Inhabited

instance : Inhabited Frame := ⟨⟨.range, .unboundedPreceding, .currentRow, .noOthers, true⟩⟩

/-- A window function call of a query: the function, its arguments and filter, the
expressions that split the rows into partitions, the ordering within a partition, the frame,
the collation of the first argument, and whether the call repeats, in an ordering term that
stands for a result column, a call over the query's first window. Such a repeat is not
computed with the first window but in a layer of its own beneath the other windows. -/
structure WindowCall where
  fn : String
  args : List Expr
  filter : Option Expr
  partition : List Expr
  order : List SortKey
  frame : Frame
  coll : Collation
  repeated : Bool
  deriving Inhabited

/-- Whether two window calls compute over the same window: the same partitions, ordering and
frame. -/
def WindowCall.sameWindow (a b : WindowCall) : Bool :=
  a.partition == b.partition && a.order == b.order && a.frame.unit == b.frame.unit &&
    a.frame.start == b.frame.start && a.frame.finish == b.frame.finish &&
    a.frame.exclude == b.frame.exclude

mutual

/-- What a planned query reads: nothing (one row of no columns), the stored table, the rows
of a subquery, the rows of a table function for its arguments, several items joined, the
rows a recursive query has reached so far (inside its recursive part), or the rows of a
recursive query.

A recursive query starts from the rows of `setup` and takes them in turn, first in first out
(or least first under `order`): each row taken is delivered (after `offset` rows, up to
`limit`) and the `steps` run over it as the rows read so far, their rows joining those
waiting; with `distinct`, a row already seen does not join again. -/
inductive PlanSource where
  | none
  | table
  | query (p : Plan)
  | function (f : TableFunction) (args : List Expr)
  | joined (steps : List JoinStep)
  | working
  | recursive (setup : Plan) (steps : List Plan) (distinct : Bool) (order : List SortKey)
      (limit offset : Option Expr)

/-- An item of a join: what it reads, how many values it adds to each joined row (its
columns, then its row number when `numbered`), how it joins the items before it, and the
condition by which an outer join matches rows. -/
structure JoinStep where
  source : PlanSource
  width : Nat
  numbered : Bool
  op : JoinOp
  on : Option Expr

/-- A query ready to run. -/
structure Plan where
  source : PlanSource
  /-- The result expressions and the names of the result columns. -/
  columns : List (Expr × String)
  filter : Option Expr
  groupBy : List Expr
  having : Option Expr
  orderBy : List SortKey
  aggregates : List AggregateCall
  windows : List WindowCall
  /-- The plans of the subqueries inside the query's expressions, by index. -/
  subplans : List Plan
  isAggregate : Bool
  distinct : Bool
  limit : Option Expr
  offset : Option Expr
  /-- Queries whose rows are combined with this query's rows, in order, each by its set
  operator. When there are any, the ordering (whose keys are then result columns), the limit
  and the offset apply to the combined rows. -/
  compound : List (SetOp × Plan)

end

instance : Inhabited Plan :=
  ⟨⟨.none, [], none, [], none, [], [], [], [], false, false, none, none, []⟩⟩

/-- A subquery that stands for its first row: a limit `X` becomes `X <> 0`, and no limit
becomes 1. -/
def Select.firstRowOnly (q : Select) : Select :=
  { q with limit := some (match q.limit with
    | some l => .binary .ne l (.cast (.integer "0") "NUMERIC")
    | none => .integer "1") }

/-- Where resolution stands: the last noted error, the plans of the subqueries of the query
being resolved, the first error that compiling would find, and the limit a folded subquery
passes to the query at the head of its fold. -/
structure ResolveState where
  noted : Option EngineError
  subplans : List Plan
  deferred : Option EngineError
  passed : Option Expr

/-- Resolution; a thrown error is the statement's error. -/
abbrev Resolver := StateT ResolveState (Except EngineError)

/-- Notes an error and goes on. -/
def note (e : EngineError) : Resolver Unit := modify fun st => { st with noted := some e }

/-- Stops resolution if an error has been noted. -/
def checkNoted : Resolver Unit := do
  if let some e := (← get).noted then throw e

/-- Runs a step whose stop is not passed on: if it stops, its error stays noted and `fallback`
stands for its result. -/
def shielded {α : Type} (x : Resolver α) (fallback : α) : Resolver α :=
  tryCatch x fun e => do
    note e
    pure fallback

/-- Keeps aside an error that compiling would find, unless one is kept already. -/
def defer (e : EngineError) : Resolver Unit :=
  modify fun st => { st with deferred := st.deferred <|> some e }

/-- Keeps the limit a folded subquery passes on, if any, for the head of its fold. -/
def passLimit : Option Expr → Resolver Unit
  | some l => modify fun st => { st with passed := some l }
  | none => pure ()

/-- Adds a subquery's plan to the query being resolved, giving its index. -/
def addSubplan (p : Plan) : Resolver Nat := do
  let st ← get
  set { st with subplans := st.subplans ++ [p] }
  pure st.subplans.length

/-- Plans a subquery, given the scopes that enclose it, innermost first. -/
abbrev Planner := List NameScope → Select → Resolver Plan

/-- A name looked up in scopes, innermost first (`depth` of them already left behind): a
column of the items read (two of them are ambiguous), else the row number of the one item
that has one, else a result column alias, else the same further out. An alias of an
aggregate or a window function must be allowed where it is found. -/
def findName (database table : Option String) (id : String) :
    List NameScope → Nat → Except EngineError (Option Expr)
  | [], _ => pure none
  | s :: rest, depth => do
    let wrap := fun (e : Expr) => if depth = 0 then e else Expr.outer depth e
    let rowids := (s.relations.filter (·.answersTo database table)).filterMap (·.rowid)
    let direct : Option Expr ← match columnHits s.relations database table id, rowids with
      | [e], _ => pure (some e)
      | _ :: _ :: _, _ => throw (.ambiguousColumn (shownColumnName database table id))
      | [], [e] => pure (if isRowidName id then some e else none)
      | [], _ => pure none
    match direct with
    | some e => pure (some (wrap e))
    | none =>
      let named := if table.isNone then s.aliases.find? (fun (a, _) => sameName a id) else none
      match named with
      | some (_, e) =>
        if e.hasAggregate && !s.allowAggregates then throw (.misusedAliasedAggregate id)
        if e.hasWindow && (!s.allowWindows || depth > 0) then throw (.misusedAliasedWindow id)
        if e matches .vector _ then throw .rowValueMisused
        pure (some (wrap e))
      | none => findName database table id rest (depth + 1)

/-- A plain name resolved in a scope. -/
def resolveName (scope : NameScope) (id : String) (quoted : Bool) : Resolver Expr := do
  match findName none none id (scope :: scope.enclosing) 0 with
  | .error e => throw e
  | .ok (some r) => pure r
  | .ok none =>
    if quoted then pure (.text id)
    else if sameName id "true" || sameName id "false" then pure (.bool (sameName id "true"))
    else throw (.noSuchColumn id)

/-- A qualified name `t.c` or `d.t.c` resolved in a scope. -/
def resolveQualified (scope : NameScope) (d : Option String) (t c : String) :
    Resolver Expr := do
  match findName d (some t) c (scope :: scope.enclosing) 0 with
  | .error e => throw e
  | .ok (some r) => pure r
  | .ok none => throw (.noSuchColumn (shownColumnName d (some t) c))

/-- The definition of a named window; a later definition of a name wins. -/
def findWindow (defs : List (String × Window)) (name : String) : Option Window :=
  (defs.reverse.find? fun (n, _) => sameName n name).map (·.2)

/-- Whether a frame bound has an offset. -/
def FrameBound.hasOffset : FrameBound → Bool
  | .preceding _ | .following _ => true
  | _ => false

/-- Whether an expression can be computed before any row is read: no names, parameters or
subqueries in it. -/
def Expr.isConstant (e : Expr) : Bool :=
  !e.anyInside (fun x => match x with
    | .name _ _ | .qualified _ _ _ | .column _ _ | .rowid | .parameter _ | .subquery _
    | .exists _ | .inQuery _ _ _ | .outer _ _ => true
    | _ => false) walkFuel

/-- A frame offset, or `NULL` if it is not constant. -/
def FrameBound.constantOffset : FrameBound → FrameBound
  | .preceding e => .preceding (if e.isConstant then e else .null)
  | .following e => .following (if e.isConstant then e else .null)
  | b => b

/-- The fixed frame of a function that only computes over a window, if it has one. -/
def fixedFrame (fn : String) : Option Frame :=
  match lowerName fn with
  | "row_number" => some ⟨.rows, .unboundedPreceding, .currentRow, .noOthers, false⟩
  | "dense_rank" | "rank" => some ⟨.range, .unboundedPreceding, .currentRow, .noOthers, false⟩
  | "percent_rank" => some ⟨.groups, .currentRow, .unboundedFollowing, .noOthers, false⟩
  | "cume_dist" =>
    some ⟨.groups, .following (.integer "1"), .unboundedFollowing, .noOthers, false⟩
  | "ntile" => some ⟨.rows, .currentRow, .unboundedFollowing, .noOthers, false⟩
  | "lead" => some ⟨.rows, .unboundedPreceding, .unboundedFollowing, .noOthers, false⟩
  | "lag" => some ⟨.rows, .unboundedPreceding, .currentRow, .noOthers, false⟩
  | _ => none

/-- The window a call computes over: a named window looked up, a window built on another
one, checked; the frame of a function with a fixed frame replaced. -/
def effectiveWindow (scope : NameScope) (fn : String) (hasFilter : Bool) (w : Window) :
    Resolver Window := do
  let w ← match w.name, w.base with
    | some n, _ =>
      match findWindow scope.windowDefs n with
      | some d => pure { d with name := none, base := none }
      | none =>
        note (.noSuchWindow n)
        return w
    | none, some b =>
      match findWindow scope.windowDefs b with
      | none => do
        note (.noSuchWindow b)
        pure w
      | some d =>
        if !w.partition.isEmpty then do
          note (.cannotOverride "PARTITION clause" b)
          pure w
        else if !d.order.isEmpty && !w.order.isEmpty then do
          note (.cannotOverride "ORDER BY clause" b)
          pure w
        else if !d.frame.implicit then do
          note (.cannotOverride "frame specification" b)
          pure w
        else pure { w with base := none, partition := d.partition,
                           order := if d.order.isEmpty then w.order else d.order }
    | none, none => pure w
  let w := { w with frame := { w.frame with start := w.frame.start.constantOffset,
                                            finish := w.frame.finish.constantOffset } }
  if w.frame.unit == .range && (w.frame.start.hasOffset || w.frame.finish.hasOffset) &&
      w.order.length != 1 then
    note .rangeNeedsOneOrder
    pure w
  else if FunctionRole.of fn 0 == .window || (fixedFrame fn).isSome then
    if hasFilter then
      note .filterOnWindowFunction
      pure w
    else pure { w with frame := (fixedFrame fn).getD w.frame }
  else pure w

/-- Whether the second argument of `likelihood` is a literal probability. -/
def isProbability : Expr → Bool
  | .real t => (readReal t.toList).2 ≤ 1.0
  | _ => false

/-- Resolves a function call: its name and arguments are checked (errors are noted, and
resolution goes on into the arguments whatever they give); an aggregate's arguments may hold
no aggregate and no window function, a window function's no window function. -/
def resolveCall (sub : NameScope → Expr → Resolver Expr) (scope : NameScope) (f : String)
    (distinct : Bool) (args : List Expr) (filter : Option Expr) (window : Option Window) :
    Resolver Expr := do
  let role := FunctionRole.of f args.length
  let windowed := window.isSome
  let known := role == .aggregate || role == .window
  let misused := known && (!scope.allowAggregates || (role == .window && !windowed) ||
    (windowed && !scope.allowWindows))
  if windowed && (role == .scalar || (role == .wrongArity && onlyScalar f)) then
    note (.notWindowFunction f)
  else if misused then
    note (if role == .window || windowed then .misusedWindow f else .misusedAggregate f)
  else if role == .unknown then note (.noSuchFunction f)
  else if role == .wrongArity then note (.wrongArgumentCount f)
  else if !known && (filter.isSome || windowed) then note (.filterOnScalar f)
  else if lowerName f == "likelihood" && !isProbability (args.getD 1 .null) then
    note (.likelihoodArgument f)
  let isAggregate := known && !misused && !(windowed && role == .scalar)
  let inner : NameScope :=
    if isAggregate then
      { scope with allowWindows := false, allowAggregates := windowed && scope.allowAggregates }
    else scope
  let args' ← shielded (args.mapM (sub inner)) args
  if !isAggregate then
    return if filter.isNone && window.isNone then .call f distinct args'
      else .windowed f distinct args' filter window
  match window with
  | some w =>
    let w ← effectiveWindow scope f filter.isSome w
    let partition ← shielded (w.partition.mapM (sub inner)) w.partition
    let order ← shielded (w.order.mapM fun t => do pure { t with e := ← sub inner t.e }) w.order
    let filter' ← shielded (filter.mapM (sub inner)) filter
    pure (.windowed f distinct args' filter' (some { w with partition, order }))
  | none =>
    let filter' ← shielded (filter.mapM (sub inner)) filter
    pure (if filter'.isNone then .call f distinct args'
      else .windowed f distinct args' filter' none)

/-- The number of values an expression stands for: a parenthesised list's length, a
subquery's width, or one. -/
def vectorSize (c : Catalog) : Expr → Nat
  | .vector items => items.length
  | .subquery q => q.width c walkFuel
  | _ => 1

/-- Resolves the names of an expression. -/
def resolveExpr : Nat → Catalog → Planner → NameScope → Expr → Resolver Expr
  | 0, _, _, _, _ => throw .expressionTooDeep
  | fuel + 1, cat, pl, scope, e =>
    let sub := resolveExpr fuel cat pl
    let row := fun (x : Expr) => match x with
      | .subquery q => do
        let p ← pl (scope :: scope.enclosing) q.firstRowOnly
        checkNoted
        let i ← addSubplan p
        pure (Expr.queryRow i (p.columns.map (·.1)))
      | .vector items => do pure (.vector (← items.mapM (sub scope)))
      | x => sub scope x
    match e with
    | .name id quoted => resolveName scope id quoted
    | .qualified d t c => resolveQualified scope d t c
    | .call f distinct args => resolveCall sub scope f distinct args none none
    | .windowed f distinct args filter window => resolveCall sub scope f distinct args filter window
    | .isNull a n => do pure (.isNull (← shielded (sub scope a) a) n)
    | .subquery q => do
      let p ← pl (scope :: scope.enclosing) q.firstRowOnly
      checkNoted
      if p.columns.length != 1 then defer (.subselectColumns p.columns.length 1)
      let i ← addSubplan p
      pure (.queryValue i ((p.columns.head?.map (·.1)).getD .null))
    | .exists q => do
      let p ← pl (scope :: scope.enclosing) q.firstRowOnly
      checkNoted
      pure (.queryExists (← addSubplan p))
    | .inQuery a q negated => do
      let p ← pl (scope :: scope.enclosing) q
      checkNoted
      let n := vectorSize cat a
      if n > 1 then
        let a' ← row a
        if p.columns.length != n then defer (.subselectColumns p.columns.length n)
        let i ← addSubplan p
        return .rowIn a' i (p.columns.map (·.1)) negated
      let a' ← sub scope a
      if p.columns.length != 1 then defer (.subselectColumns p.columns.length 1)
      let i ← addSubplan p
      pure (.queryIn a' i ((p.columns.head?.map (·.1)).getD .null) negated)
    | .binary op a b => do
      if op == .is || op == .isNot then
        if let .name id false := b then
          if sameName id "true" || sameName id "false" then
            if let .bool v ← resolveName scope id false then
              let a' ← sub scope a
              checkNoted
              return .truth a' v (op == .isNot)
      if op.isComparison then
        if vectorSize cat a != vectorSize cat b then note .rowValueMisused
      checkNoted
      if op.isComparison && vectorSize cat a > 1 then
        let a' ← row a
        return .binary op a' (← row b)
      e.traverse (sub scope)
    | .between a lo hi negated => do
      let n := vectorSize cat a
      let m := if vectorSize cat lo == n then vectorSize cat hi else vectorSize cat lo
      if n != m then note .rowValueMisused
      checkNoted
      if n > 1 then
        let a' ← row a
        let lo' ← row lo
        return .between a' lo' (← row hi) negated
      e.traverse (sub scope)
    | .case (some op) bs els => do
      checkNoted
      let n := vectorSize cat op
      if n ≤ 1 then return ← e.traverse (sub scope)
      -- a row operand meets each `WHEN` as `op = w`, which needs a row of the same size
      let op' ← row op
      let bs' ← bs.mapM fun (w, t) => do
        let w' ← if vectorSize cat w == n then row w else do
          let w' ← sub scope w
          defer .rowValueMisused
          pure w'
        pure (w', ← sub scope t)
      pure (.case (some op') bs' (← els.mapM (sub scope)))
    | .collate a c => do
      checkNoted
      pure (.collate (← sub scope a) c)
    | .integer t => do
      checkNoted
      if hexTooBig t then note (.hexLiteralTooBig t)
      pure e
    | .vector items => do
      checkNoted
      let items' ← items.mapM (sub scope)
      defer .rowValueMisused
      pure (.vector items')
    | .raise => do
      checkNoted
      defer .raiseOutsideTrigger
      pure e
    | e => do
      checkNoted
      e.traverse (sub scope)

/-- Resolves one part of a query: an error noted in it stops resolution when it ends. -/
def resolvePart (res : NameScope → Expr → Resolver Expr) (scope : NameScope) (e : Expr) :
    Resolver Expr := do
  let r ← res scope e
  checkNoted
  pure r

/-- The aggregate and window function calls of a query, gathered. -/
abbrev Gatherer := StateT (List AggregateCall × List WindowCall) (Except EngineError)

/-- The accumulator index of an aggregate call, adding it if it is new. -/
def accumulatorOf (call : AggregateCall) : Gatherer Nat := do
  let (calls, wins) ← get
  match calls.zipIdx.find? fun (c, _) => c.same call with
  | some (_, i) => pure i
  | none =>
    if call.distinct && call.args.length != 1 then throw .distinctAggregateArity
    set (calls ++ [call], wins)
    pure calls.length

/-- The collation a function's arguments bring: that of the first argument that has one. -/
def callCollation (args : List Expr) : Collation := argumentCollation args

/-- Replaces the aggregate calls of an expression by their accumulators and its window
function calls by their indices. -/
def gatherExpr : Nat → Expr → Gatherer Expr
  | 0, _ => throw .expressionTooDeep
  | fuel + 1, e =>
    match e with
    | .call f d args =>
      if FunctionRole.of f args.length == .aggregate then do
        pure (.aggregate (← accumulatorOf ⟨f, d, args, none, callCollation args⟩))
      else e.traverse (gatherExpr fuel)
    | .windowed f d args filter none =>
      if FunctionRole.of f args.length == .aggregate then do
        pure (.aggregate (← accumulatorOf ⟨f, d, args, filter, callCollation args⟩))
      else e.traverse (gatherExpr fuel)
    | .windowed f _ args filter (some w) => do
      let args' ← args.mapM (gatherExpr fuel)
      let filter' ← filter.mapM (gatherExpr fuel)
      let partition ← w.partition.mapM (gatherExpr fuel)
      let order ← w.order.mapM fun t => do
        let k ← gatherExpr fuel t.e
        pure (⟨k, t.descending, t.nullsFirst, k.collation.getD .binary⟩ : SortKey)
      let (calls, wins) ← get
      set (calls,
        wins ++ [⟨f, args', filter', partition, order, w.frame, callCollation args, false⟩])
      pure (.window wins.length)
    | e => e.traverse (gatherExpr fuel)

/-- Marks the window calls from index `start` on that compute over the window of the query's
first call as repeats of it. -/
def markRepeats (start : Nat) : Gatherer Unit :=
  modify fun (calls, wins) =>
    match wins.head? with
    | none => (calls, wins)
    | some first => (calls, wins.mapIdx fun i w =>
        if start ≤ i && w.sameWindow first then { w with repeated := true } else w)

/-- The columns that `*` shows of an item, as result columns named after them; the columns a
join merged into an item before it are left out when `skipMerged`. -/
def Relation.shown (r : Relation) (skipMerged : Bool) : List (Expr × Option String × String) :=
  let cols := (r.columns.take r.visible).zipIdx.filter fun ((n, _), _) =>
    !(skipMerged && r.merged.any (sameName · n))
  cols.map fun ((n, aff), i) => (.column (r.offset + i) aff, none, n)

/-- A query's result columns, `*` and `t.*` expanded, with their aliases and the text they
were written with. `*` shows the columns of every item, a column merged by a join once;
`t.*` shows the columns of the items called `t`. -/
def expandColumns (relations : List Relation) :
    List ResultColumn → Except EngineError (List (Expr × Option String × String))
  | [] => pure []
  | c :: rest => do
    let here ← match c with
      | .all =>
        if relations.isEmpty then throw .noTablesSpecified
        else pure (relations.zipIdx.flatMap fun (r, k) => r.shown (k > 0))
      | .allOf t =>
        match relations.filter (·.answersTo none (some t)) with
        | [] => throw (.noSuchTable t)
        | rs => pure (rs.flatMap (·.shown false))
      | .expr e asName span => pure [(e, asName, span)]
    pure (here ++ (← expandColumns relations rest))

/-- Applies the `USING` and `NATURAL` joins to the relations of a query's items. Such an item
records the columns it is merged on (for `NATURAL`, the columns it shows that an item before
it shows too), and gives the equality of each with the first item before it that has it. -/
def mergeJoins (items : List FromItem) (rels : List Relation) :
    Except EngineError (List (Relation × List Expr)) :=
  (items.zip rels).zipIdx.mapM fun ((item, r), k) => do
    let before := rels.take k
    let names ←
      if item.join.natural then
        if item.on.isSome || item.usingColumns.isSome then throw .naturalWithClause
        pure (some (((r.columns.take r.visible).map (·.1)).filter fun n =>
          before.any fun l => (l.columns.take l.visible).any fun (m, _) => sameName m n))
      else pure item.usingColumns
    match names with
    | none => pure (r, [])
    | some names =>
      let eqs ← names.mapM fun n =>
        match before.findSome? (·.lookupColumn n), r.lookupColumn n with
        | some a, some b => pure (Expr.binary .eq a b)
        | _, _ => throw (.usingColumnMissing n)
      pure ({ r with merged := names }, eqs)

/-- A relation as names see it before planning: its names and the names of its columns. -/
def shapeRelation (names cols : List String) (visible : Nat) : Relation :=
  ⟨names, none, cols.map (·, Affinity.blob), visible, 0, none, []⟩

/-- The queries of a compound with the ordering, the limit and the offset on the last of
them, where they are written. -/
def Select.arms (q : Select) : List Select :=
  let others := q.compound.map (·.2)
  let plain := { q with compound := [], common := [] }
  match others.getLast? with
  | none => [plain]
  | some last =>
    { plain with orderBy := [], limit := none, offset := none } :: others.dropLast ++
      [{ last with orderBy := q.orderBy, limit := q.limit, offset := q.offset }]

mutual

/-- Checks every query of a statement, the outer one first, for what names cannot find:
tables, named queries and table functions that do not exist, named queries read inside
themselves or giving the wrong number of columns, joins on columns that one side lacks, `*`
without a table and `t.*` without an item `t`. The queries of a compound are checked from the
last to the first. -/
def checkExpansion (c : Catalog) : Nat → Select → Except EngineError Unit
  | 0, _ => throw .expressionTooDeep
  | fuel + 1, q => do
    let c := c.enter q.common
    q.arms.reverse.forM (checkArm c fuel)

/-- Checks one query of a compound: the items it reads (with their subqueries and named
queries), then its joins and result columns, then the subqueries in its expressions. -/
def checkArm (c : Catalog) : Nat → Select → Except EngineError Unit
  | 0, _ => throw .expressionTooDeep
  | fuel + 1, arm => do
    let items := normalizeFrom walkFuel arm.source
    let rels ← items.mapM (checkItem c fuel)
    let merged ← mergeJoins items rels
    let _ ← expandColumns (merged.map (·.1)) arm.columns
    arm.exprSelects.forM (checkExpansion { c with working := none } fuel)

/-- Checks an item of `FROM`, giving the relation names see in it. -/
def checkItem (c : Catalog) : Nat → FromItem → Except EngineError Relation
  | 0, _ => throw .expressionTooDeep
  | fuel + 1, item =>
    match item.source with
    | .table name => do
      let rel ← match c.lookup item.database name with
        | some (.working cols) =>
          pure (shapeRelation [item.asName.getD name] (cols.map (·.1)) cols.length)
        | some (.common t home) => do
          if let some (_, what) := c.active.find? fun (n, _) => sameName n t.name then
            throw (readingError what t.name)
          let cols ← checkCommon { home with working := none } c.active fuel t
          pure (shapeRelation [item.asName.getD t.name] cols cols.length)
        | some .stored =>
          pure (shapeRelation [item.asName.getD name] (c.schema.columns.map (·.name))
            c.schema.columns.length)
        | some (.function f) =>
          pure (shapeRelation [item.asName.getD name] (f.columns.1 ++ f.columns.2)
            f.columns.1.length)
        | none => throw (.noSuchTable (shownTableName item.database name))
      if let some index := item.indexedBy then throw (.noSuchIndex index)
      pure rel
    | .function name _ =>
      match c.lookup item.database name with
      | some (.function f) => do
        if let some shown := (TableRef.function f).refusedName name c.schema then
          throw (.notAFunction shown)
        pure (shapeRelation [item.asName.getD name] (f.columns.1 ++ f.columns.2)
          f.columns.1.length)
      | some r =>
        throw (.notAFunction ((r.refusedName name c.schema).getD name))
      | none => throw (.noSuchTable (shownTableName item.database name))
    | .query sub => do
      let c := { c with working := none }
      checkExpansion c fuel sub
      let cols := tableColumnNames (sub.shapeNames c fuel)
      pure (shapeRelation item.asName.toList cols cols.length)
    | .nested _ => pure (shapeRelation [] [] 0)

/-- Checks the body of a named query where it is read, giving its column names. A body that
may recur (its last operator is `UNION` or `UNION ALL`) is checked but for its last query,
which is checked after the width: inside it, reading the named query again is a second
recursive reference when the body recurs, else a recursive reference in a subquery. In the
queries that recur, reading the named query directly in `FROM` reads its rows so far, at most
once a query. -/
def checkCommon (base : Catalog) (active : List (String × String)) : Nat → CommonTable →
    Except EngineError (List String)
  | 0, _ => throw .expressionTooDeep
  | fuel + 1, t => do
    let base := base.enter t.query.common
    let q := { t.query with common := [] }
    let arms := q.arms
    let circular := { base with active := (t.name, "circular reference") :: active }
    let width := q.width circular fuel
    let names := tableColumnNames (t.columnNames.getD (q.shapeNames circular fuel))
    let checkWidth : Except EngineError Unit := match t.columnNames with
      | some ns => if ns.length != width then throw (.commonTableWidth t.name width ns.length)
          else pure ()
      | none => pure ()
    let mayRecur : Bool := match q.compound.getLast? with
      | some (op, _) => op == .union || op == .unionAll
      | none => false
    match recursiveSetup t.name q with
    | some k =>
      if let some _ := (arms.drop k).reverse.find? (·.readsOf t.name > 1) then
        throw (.recursiveMisuse "multiple references to recursive table" t.name)
      let stepCat := { circular with working := some (t.name, names.map (·, Affinity.blob)) }
      (arms.dropLast.zipIdx.reverse).forM fun (arm, i) =>
        checkArm (if i ≥ k then stepCat else circular) fuel arm
      checkWidth
      if let some last := arms.getLast? then
        checkArm { stepCat with active := (t.name, "multiple recursive references") :: active }
          fuel last
    | none =>
      if mayRecur then
        arms.dropLast.reverse.forM (checkArm circular fuel)
        checkWidth
        if let some last := arms.getLast? then
          checkArm { circular with
            active := (t.name, "recursive reference in a subquery") :: active } fuel last
      else
        checkExpansion circular fuel q
        checkWidth
    pure names

end

/-- The column number an `ORDER BY` or `GROUP BY` term gives, if it is an integer literal
that fits 32 bits (possibly signed). -/
def Expr.termNumber? : Expr → Option Int
  | .integer t =>
    match readWhole t.toList with
    | (.clean, v) => if v < Int.pow 2 31 then some v else none
    | _ =>
      match t.toList with
      | '0' :: x :: hex =>
        if (x = 'x' || x = 'X') && (hex.dropWhile (· = '0')).length ≤ 8 then
          let v := hex.foldl (fun acc c => acc * 16 + hexValue c) 0
          if v < Nat.pow 2 31 then some (v : Int) else none
        else none
      | _ => none
  | .unary .pos e => e.termNumber?
  | .unary .neg e => e.termNumber?.map (- ·)
  | _ => none

/-- A term without its `COLLATE` and `likely` wrappers. -/
def Expr.skipWrappers : Nat → Expr → Expr
  | 0, e => e
  | fuel + 1, e =>
    match e with
    | .collate a _ => a.skipWrappers fuel
    | .call f _ (a :: _) =>
      if lowerName f == "likely" || lowerName f == "unlikely" || lowerName f == "likelihood" then
        a.skipWrappers fuel
      else e
    | e => e

/-- What an ordering or grouping term stands for: a result column by number, or an
expression. -/
inductive TermRef where
  | result (n : Int)
  | expr (e : Expr)

/-- Resolves the terms of an ordering (`ORDER`) or a grouping (`GROUP`). A term is, in this
order: for an ordering, a bare name that is a result column's alias; an integer, which numbers
a result column; an expression. Numbers outside `1..65535` fail at once; numbers beyond the
result columns fail once every term is resolved. A term that stands for a result column is
that column's expression, under the term's outermost `COLLATE`, and so is an expression equal
to a result column's; each term comes with the index of the last result column it stands
for. -/
def resolveTerms (res : NameScope → Expr → Resolver Expr) (scope : NameScope)
    (results : List (Expr × Option String × String)) (clause : String) (terms : List Expr) :
    Resolver (List (Expr × Option Nat)) := do
  let refs ← terms.zipIdx.mapM fun (e, i) => do
    let bare := e.skipWrappers walkFuel
    if clause == "ORDER" then
      if let .name id _ := bare then
        let named := results.zipIdx.find? fun ((_, a, _), _) =>
          (a.map (sameName · id)) == some true
        if let some (_, k) := named then return TermRef.result (k + 1)
    match bare.termNumber? with
    | some n =>
      if n < 1 || n > 0xffff then throw (.termOutOfRange clause (i + 1) results.length)
      pure (TermRef.result n)
    | none => pure (TermRef.expr (← resolvePart res scope e))
  let checked ← (terms.zip refs).zipIdx.mapM fun ((e, r), i) => do
    match r with
    | .expr x =>
      let same := results.zipIdx.filterMap fun ((y, _, _), j) => if y == x then some j else none
      pure (x, same.getLast?)
    | .result n =>
      match results[n.toNat - 1]? with
      | some (x, _, _) =>
        let x := match e with
          | .collate _ c => Expr.collate x c
          | _ => x
        pure (x, some (n.toNat - 1))
      | none => throw (.termOutOfRange clause (i + 1) results.length)
  pure checked

/-- The name of a result column: its alias, the name of the column it is (`rowid` for a row
number), or the text it was written with. -/
def resultName (relations : List Relation) (e : Expr) (asName : Option String)
    (span : String) : String :=
  match asName with
  | some a => a
  | none =>
    match e with
    | .column i _ =>
      (relations.findSome? fun r =>
        if r.offset ≤ i && i < r.offset + r.columns.length then
          (r.columns[i - r.offset]?).map (·.1)
        else if r.rowid == some e then some "rowid"
        else none).getD span
    | .rowid => "rowid"
    | _ => span

/-- How deep subqueries may nest. -/
def planFuel : Nat := 1000

/-- An item of `FROM` once planned: what it reads, the names it goes by, the database its
table belongs to, its columns with their affinities (of which the first `visible` are those
that `*` shows), and whether names can reach its row numbers. -/
structure PlannedItem where
  source : PlanSource
  names : List String
  database : Option String
  columns : List (String × Affinity)
  visible : Nat
  numbered : Bool

/-- How many values a planned item adds to a joined row: its columns, then its row number
when names can reach it. -/
def PlannedItem.width (it : PlannedItem) : Nat :=
  it.columns.length + if it.numbered then 1 else 0

/-- The relations of planned items laid out one after another in the row a query reads. A
lone item's row number is the row's own; of several items, each one's row number follows its
columns. -/
def layoutItems : List PlannedItem → List Relation
  | [one] =>
    [⟨one.names, one.database, one.columns, one.visible, 0,
      if one.numbered then some .rowid else none, []⟩]
  | items =>
    (items.foldl (fun (acc : List Relation × Nat) it =>
      let rowid :=
        if it.numbered then some (Expr.column (acc.2 + it.columns.length) .integer) else none
      (acc.1 ++ [⟨it.names, it.database, it.columns, it.visible, acc.2, rowid, []⟩],
        acc.2 + it.width))
      ([], 0)).1

/-- The columns of a planned query as an item reads them: named by `names` if given, else by
the query's result columns. -/
def planColumns (p : Plan) (names : Option (List String)) : List (String × Affinity) :=
  (names.getD (p.columns.map (·.2))).zip (p.columns.map fun (e, _) => e.affinity.getD .blob)

/-- Conditions joined by `AND`, if there are any. -/
def allOf : List Expr → Option Expr
  | [] => none
  | e :: rest => some (rest.foldl (fun acc x => .binary .and acc x) e)

/-- The collation a column of a compound compares under: that of the first of its queries
whose column has one (a column read has its own), else binary. -/
def compoundCollation (plans : List Plan) (k : Nat) : Collation :=
  (plans.findSome? fun p => (p.columns[k]?).bind (·.1.collation)).getD .binary

/-- An expression with its names reduced to their column names in small letters, so that two
spellings of one column compare equal. -/
def Expr.normalized : Nat → Expr → Expr
  | 0, e => e
  | fuel + 1, e =>
    match e with
    | .name id _ => .name (lowerName id) false
    | .qualified _ _ col => .name (lowerName col) false
    | e => Id.run (e.traverse fun x => pure (Expr.normalized fuel x))

/-- An expression without its outermost `COLLATE`. -/
def Expr.uncollated : Expr → Expr
  | .collate a _ => a
  | e => e

/-- The result columns of a query as an ordering term of a compound is matched against
them: each column's alias and expression, `*` expanded into the columns it shows. -/
def Select.orderTargets (c : Catalog) (fuel : Nat) (q : Select) : List (Option String × Expr) :=
  let c := c.enter q.common
  let items := (normalizeFrom walkFuel q.source).map fun item =>
    (item, FromItem.shapeColumns c fuel item)
  let named := fun (ns : List String) => ns.map fun n => ((none : Option String), Expr.name n false)
  q.columns.flatMap fun col => match col with
    | .expr e asName _ => [(asName, e)]
    | .all => named ((shownOf items).flatMap (·.2))
    | .allOf t => named ((items.filter (·.1.answers t)).flatMap (·.2))

/-- The result column an ordering term of a compound matches in one of its queries: a bare
name that is a column's alias, else a column whose expression is the term, collations
aside. -/
def matchOrderTerm (bare : Expr) (targets : List (Option String × Expr)) : Option Nat :=
  let byAlias := match bare with
    | .name id _ =>
      targets.zipIdx.findSome? fun ((a, _), k) => if a.any (sameName · id) then some k else none
    | _ => none
  let norm := fun (e : Expr) => e.uncollated.normalized walkFuel
  byAlias <|> targets.zipIdx.findSome? fun ((_, e), k) =>
    if norm e == norm bare then some k else none

/-- Resolves the ordering of a compound into keys over its result columns. An integer term
numbers a result column; any other term is matched against the queries from the first. A
number out of range fails first, then the first term that matches nothing. A term's
`COLLATE` gives its collation, else the compound's column gives its own. -/
def compoundOrder (c : Catalog) (fuel : Nat) (sels : List Select) (plans : List Plan)
    (terms : List OrderTerm) : Except EngineError (List SortKey) := do
  let width : Nat := (plans.head?.map (·.columns.length)).getD 0
  let targets := sels.map (·.orderTargets c fuel)
  for (t, i) in terms.zipIdx do
    if let some n := (t.e.skipWrappers walkFuel).termNumber? then
      if n < 1 || n > (width : Int) then throw (.termOutOfRange "ORDER" (i + 1) width)
  terms.zipIdx.mapM fun (t, i) => do
    let bare := t.e.skipWrappers walkFuel
    let k ← match bare.termNumber? with
      | some n => pure (n.toNat - 1)
      | none =>
        match targets.findSome? (matchOrderTerm bare) with
        | some k => pure k
        | none => throw (.orderTermUnmatched (i + 1))
    let coll ← match t.e with
      | .collate _ name =>
        match Collation.ofName? name with
        | some cl => pure cl
        | none => throw (.noSuchCollation name)
      | _ => pure (compoundCollation plans k)
    pure (⟨.column k .blob, t.descending, t.nullsFirst, coll⟩ : SortKey)

mutual

/-- Plans a query with its `WITH` clause and the queries combined with it, given the scopes
that enclose it, and the reader of its items when it folds into the query that reads it. The
queries of a compound are planned from the last to the first, each checked against the width
of the one after it; the first keeps the limit and the offset, and the ordering of the
compound is resolved against the result columns of all of them. -/
def planQuery (c : Catalog) :
    Nat → List NameScope → Select → Option ItemUse → Resolver Plan
  | 0, _, _, _ => throw .expressionTooDeep
  | fuel + 1, enclosing, q, into => do
    let c := c.enter q.common
    if q.compound.isEmpty then
      planArm c fuel enclosing { q with common := [] }
        (into.getD (q.itemUse (!q.orderBy.isEmpty) false))
    else
      let sels := { q with compound := [], common := [], orderBy := [] } :: q.compound.map (·.2)
      let ops := q.compound.map (·.1)
      let plans ← planArms c fuel enclosing sels ops (!q.orderBy.isEmpty)
      let keys ← liftM (compoundOrder c fuel sels plans q.orderBy)
      let first := plans.headD default
      pure { first with compound := ops.zip (plans.drop 1), orderBy := keys }

/-- Plans the queries of a compound from the last to the first, each checked against the
width of the one after it; `ops` joins each query to the next, and `ordered` says whether the
compound is ordered. -/
def planArms (c : Catalog) : Nat → List NameScope → List Select → List SetOp → Bool →
    Resolver (List Plan)
  | 0, _, _, _, _ => throw .expressionTooDeep
  | fuel + 1, enclosing, sels, ops, ordered =>
    sels.zipIdx.reverse.foldlM (fun (after : List Plan) (sel, i) => do
      let p ← planArm c fuel enclosing sel (sel.itemUse ordered true)
      if let some next := after.head? then
        if p.columns.length != next.columns.length then
          let right := sels.getD (i + 1) default
          throw (if right.values then .valuesWidth
            else .compoundWidth (ops.getD i .union).words)
      pure (p :: after)) []

/-- Resolves one query of a compound, given the scopes that enclose it and the reader of its
items, and plans it. -/
def planArm (c : Catalog) : Nat → List NameScope → Select → ItemUse → Resolver Plan
  | 0, _, _, _ => throw .expressionTooDeep
  | fuel + 1, enclosing, q, use => do
    let res := resolveExpr walkFuel c
      (fun (enc : List NameScope) (sub : Select) =>
        planQuery { c with working := none } fuel enc sub none)
    let saved := (← get).subplans
    modify fun st => { st with subplans := [] }
    let bare : NameScope := ⟨[], [], false, false, [], []⟩
    let limit ← q.limit.mapM (resolvePart res bare)
    let offset ← q.offset.mapM (resolvePart res bare)
    let fromItems := normalizeFrom walkFuel q.source
    let pending := (← get).passed
    if use.own then modify fun st => { st with passed := none }
    let planned ← fromItems.mapM (planItem c fuel enclosing use)
    let reached := (← get).passed
    let passed := if use.own then reached else none
    if use.own then modify fun st => { st with passed := pending }
    let limit ← match limit with
      | some l => pure (some l)
      | none => passed.mapM (resolvePart res bare)
    let merged ← liftM (mergeJoins fromItems (layoutItems planned))
    let relations := merged.map (·.1)
    let results ← liftM (expandColumns relations q.columns)
    let resultScope : NameScope := ⟨relations, [], true, true, q.windows, enclosing⟩
    let resolved ← results.mapM fun (e, asName, span) => do
      pure (← resolvePart res resultScope e, asName, span)
    let argScope := { resultScope with allowWindows := false }
    let sources ← planned.mapM fun it => match it.source with
      | .function f args => do
        pure (PlanSource.function f (← args.mapM (resolvePart res argScope)))
      | s => pure s
    let isAggregate := !q.groupBy.isEmpty || resolved.any (fun (e, _, _) => e.hasAggregate)
    let aliases := resolved.filterMap fun (e, asName, _) => asName.map fun a => (a, e)
    let scope : NameScope := ⟨relations, aliases, isAggregate, false, q.windows, enclosing⟩
    let having ← match q.having with
      | some h =>
        if isAggregate then some <$> resolvePart res scope h else throw .havingWithoutAggregate
      | none => pure none
    let filter ← q.filter.mapM (res scope)
    let conds ← (fromItems.zip merged).mapM fun (item, (_, eqs)) => do
      match item.on with
      | some on => pure (some (← res scope on))
      | none => pure (allOf eqs)
    checkNoted
    let isOuter := fun (item : FromItem) => item.join.left || item.join.right
    let inner := (fromItems.zip conds).filterMap fun (item, cond) =>
      if isOuter item then none else cond
    let filter := allOf (filter.toList ++ inner)
    let orderScope : NameScope := ⟨relations, aliases, true, true, q.windows, []⟩
    let orderTerms ← resolveTerms res orderScope resolved "ORDER" (q.orderBy.map (·.e))
    let orderExprs := orderTerms.map (·.1)
    let groupTerms ← resolveTerms res { orderScope with allowWindows := false } resolved
      "GROUP" q.groupBy
    let groupBy := groupTerms.map (·.1)
    if groupBy.any (·.hasAggregate) then throw .aggregateInGroupBy
    -- a grouping term that repeats a result column brings its window calls along, which
    -- grouping refuses once the windows are set apart, before anything else is built
    let groupedWindow := groupTerms.findSome? fun (x, col) =>
      col.bind fun _ => x.findInside Expr.windowName? walkFuel
    if let some f := groupedWindow then
      modify fun st => { st with deferred := some (.misusedWindow f) }
    if let some a := (filter.toList ++ conds.filterMap id).findSome? (·.firstAggregate?) then
      defer (.strayAggregate a)
    if !isAggregate then
      if let some a := orderExprs.findSome? (·.firstAggregate?) then defer (.strayAggregate a)
    let gathering : Gatherer (List Expr × List Expr × Option Expr) := do
      let cols ← resolved.mapM fun (e, _, _) => gatherExpr walkFuel e
      let keys ← orderTerms.mapM fun (e, column) => do
        let start := (← get).2.length
        let k ← gatherExpr walkFuel e
        if column.isSome then markRepeats start
        pure k
      let h ← having.mapM (gatherExpr walkFuel)
      pure (cols, keys, h)
    let ((cols, keys, having), aggregates, windows) ←
      match gathering.run ([], []) with
      | .ok r => pure r
      | .error e => do
        defer e
        pure ((resolved.map (·.1), orderExprs, having), [], [])
    let repeats := fun (k : Expr) => k.anyInside (fun x => match x with
      | .window i => ((windows[i]?).map (·.repeated)).getD false
      | _ => false) walkFuel
    let shown := (orderTerms.zip keys).filterMap fun ((_, col), k) =>
      col.bind fun j => if repeats k then some (j, k) else none
    -- A result column that an ordering term repeats with calls of its own shows the term's
    -- value; under `DISTINCT` the term orders by the column's value instead.
    let (cols, keys) :=
      if q.distinct then
        (cols, (orderTerms.zip keys).map fun ((_, col), k) =>
          match col, cols[col.getD 0]? with
          | some _, some e =>
            if repeats k then
              match k with
              | .collate _ c => Expr.collate e c
              | _ => e
            else k
          | _, _ => k)
      else (cols.mapIdx fun j e => ((shown.filter (·.1 == j)).getLast?.map (·.2)).getD e, keys)
    let orderBy := (q.orderBy.zip keys).map fun (t, k) =>
      (⟨k, t.descending, t.nullsFirst, (k.collation).getD .binary⟩ : SortKey)
    let names := resolved.map fun (e, asName, span) => resultName relations e asName span
    let source := match planned, sources with
      | [], _ => PlanSource.none
      | [_], [s] => s
      | _, _ =>
        .joined (((planned.zip sources).zip (fromItems.zip conds)).map
          fun ((it, s), (item, cond)) =>
            ⟨s, it.width, it.numbered, item.join, if isOuter item then cond else none⟩)
    let subplans := (← get).subplans
    modify fun st => { st with subplans := saved }
    pure { source, columns := cols.zip names, filter, groupBy, having, orderBy, aggregates,
           windows, subplans, isAggregate, distinct := q.distinct, limit, offset,
           compound := [] }

/-- Plans an item of `FROM` that a reader reads: a named query (its body planned afresh), the
stored table, a table function (its arguments resolved with the query's other parts), or a
subquery; a named query or a subquery as the reader settles it. -/
def planItem (c : Catalog) : Nat → List NameScope → ItemUse → FromItem → Resolver PlannedItem
  | 0, _, _, _ => throw .expressionTooDeep
  | fuel + 1, enclosing, use, item => do
    match item.source with
    | .table name =>
      match c.lookup item.database name with
      | some (.working cols) =>
        pure ⟨.working, [item.asName.getD name], none, cols, cols.length, false⟩
      | some (.common t home) => do
        let p ← planCommon { home with working := none } c.active fuel enclosing
          (use.settle item) t
        checkNoted
        let cols := planColumns p
          (some (tableColumnNames (t.columnNames.getD (Select.shapeNames home fuel t.query))))
        pure ⟨.query p, [item.asName.getD t.name], none, cols, cols.length, false⟩
      | some .stored =>
        let cols := c.schema.columns.map fun col => (col.name, col.affinity)
        pure ⟨.table, [item.asName.getD name], some "main", cols, cols.length, true⟩
      | some (.function f) =>
        let cols := (f.columns.1 ++ f.columns.2).zip f.affinities
        pure ⟨.function f [], [item.asName.getD name], some f.database, cols,
          f.columns.1.length, true⟩
      | none => throw (.noSuchTable (shownTableName item.database name))
    | .function name args =>
      match TableFunction.ofName? name with
      | some f =>
        if args.length > f.columns.2.length then
          defer (.tooManyArguments name f.columns.2.length)
        let cols := (f.columns.1 ++ f.columns.2).zip f.affinities
        pure ⟨.function f args, [item.asName.getD name], some f.database, cols,
          f.columns.1.length, true⟩
      | none => throw (.noSuchTable name)
    | .query sub => do
      let c := { c with working := none }
      let (settled, into, passed) := use.settle item sub
      passLimit passed
      let p ← planQuery c fuel enclosing settled into
      checkNoted
      let cols := planColumns p (some (tableColumnNames (sub.shapeNames c fuel)))
      pure ⟨.query p, item.asName.toList, none, cols, cols.length, false⟩
    | .nested _ => throw (.unsupported "joins in parentheses")

/-- Plans the body of a named query where it is read, as `settle` settles it for the query
that reads it. A body that recurs plans its starting queries as one query, then its recursive
queries, which read the rows reached so far under the query's name, with the columns the
starting queries give; its ordering, limit and offset govern the recursion. -/
def planCommon (base : Catalog) (active : List (String × String)) :
    Nat → List NameScope → (Select → Select × Option ItemUse × Option Expr) → CommonTable →
      Resolver Plan
  | 0, _, _, _ => throw .expressionTooDeep
  | fuel + 1, enclosing, settle, t => do
    let inner := { base.enter t.query.common with
                   active := (t.name, "circular reference") :: active }
    let body := { t.query with common := [] }
    match recursiveSetup t.name body with
    | none =>
      let (settled, into, passed) := settle body
      passLimit passed
      planQuery inner fuel enclosing settled into
    | some k =>
      let res := resolveExpr walkFuel inner
        (fun (enc : List NameScope) (sub : Select) => planQuery inner fuel enc sub none)
      let bare : NameScope := ⟨[], [], false, false, [], []⟩
      let limit ← body.limit.mapM (resolvePart res bare)
      let offset ← body.offset.mapM (resolvePart res bare)
      let setupSel := { body with compound := body.compound.take (k - 1), orderBy := [],
                                  limit := none, offset := none }
      let setup ← planQuery inner fuel enclosing setupSel none
      checkNoted
      let cols := planColumns setup
        (some (tableColumnNames (t.columnNames.getD (Select.shapeNames base fuel t.query))))
      let stepPart := body.compound.drop (k - 1)
      let stepSels := stepPart.map (·.2)
      let steps ← planArms { inner with working := some (t.name, cols) } fuel enclosing
        stepSels ((stepPart.map (·.1)).drop 1) false
      if let some first := steps.head? then
        if first.columns.length != setup.columns.length then
          let op : SetOp := match stepPart.head? with
            | some (o, _) => o
            | none => .union
          throw (.compoundWidth op.words)
      if steps.any (·.isAggregate) then defer .recursiveAggregate
      let setupSels := { setupSel with compound := [] } :: setupSel.compound.map (·.2)
      let setupPlans := { setup with compound := [] } :: setup.compound.map (·.2)
      let keys ← liftM (compoundOrder inner fuel (setupSels ++ stepSels) (setupPlans ++ steps)
        body.orderBy)
      let distinct := match body.compound.getLast? with
        | some (op, _) => op == SetOp.union
        | none => false
      pure { (default : Plan) with
        source := .recursive setup steps distinct keys limit offset
        columns := cols.zipIdx.map fun ((n, aff), i) => (.column i aff, n) }

end

/-- Whether a function compares its arguments, under the collation of the first argument
that brings one: `min` and `max` of several values, and `nullif`. -/
def comparesArguments (fn : String) (n : Nat) : Bool :=
  let f := lowerName fn
  ((f == "min" || f == "max") && n > 1) || f == "nullif"

/-- The collation names that computing an expression looks up, in order: those of the
expressions inside it, then its own. A comparison looks up the collation of its first side
with an explicit `COLLATE` (or of its sides' own), `IN` that of its left side, a `CASE` with
an operand that of each of its comparisons, and a comparing function that of its first
argument that brings one. -/
def Expr.neededCollations : Nat → Expr → List String
  | 0, _ => []
  | fuel + 1, e =>
    let own : List String := match e with
      | .binary op a b =>
        -- `IS NULL` and `IS NOT NULL` against the literal test for nothing and compare nothing
        if op.isComparison && !((op == .is || op == .isNot) && b matches .null) then
          (comparisonCollationName a b).toList
        else []
      | .between a lo hi _ =>
        (comparisonCollationName a lo).toList ++ (comparisonCollationName a hi).toList
      | .inList a _ _ => a.collationName.toList
      | .queryIn a _ head _ => (comparisonCollationName a head).toList
      | .case (some op) bs _ => bs.filterMap fun (w, _) => comparisonCollationName op w
      | .call f _ args =>
        if comparesArguments f args.length then (args.findSome? (·.collationName)).toList
        else []
      | _ => []
    e.children.flatMap (Expr.neededCollations fuel) ++ own

/-- The collation names a planned query looks up, in the order the engine meets them: the
result columns of the subqueries it reads (whose collations their columns keep) and what
those look up, then the keys of its grouping, of `DISTINCT` and of its ordering, then what
its filter, result columns, aggregates, windows and group filter compute, then its
compounded queries with the keys that combine them, and last its own subqueries. -/
def Plan.neededCollations : Nat → Plan → List String
  | 0, _ => []
  | fuel + 1, p =>
    let ex := Expr.neededCollations walkFuel
    let read := fun (q : Plan) =>
      q.columns.filterMap (·.1.collationName) ++ Plan.neededCollations fuel q
    let source := match p.source with
      | .query q => read q
      | .joined steps => steps.flatMap fun st => (match st.source with
        | .query q => read q
        | .function _ args => args.flatMap ex
        | _ => []) ++ st.on.toList.flatMap ex
      | .function _ args => args.flatMap ex
      | .recursive setup steps _ _ _ _ => read setup ++ steps.flatMap (Plan.neededCollations fuel)
      | _ => []
    let keys := p.groupBy.filterMap (·.collationName) ++
      (if p.distinct then p.columns.filterMap (·.1.collationName) else []) ++
      p.orderBy.filterMap (·.e.collationName)
    let aggregates := p.aggregates.flatMap fun a =>
      a.args.flatMap ex ++ a.filter.toList.flatMap ex ++
        (if comparesArguments a.fn 2 then (a.args.findSome? (·.collationName)).toList
         else []) ++
        (if a.distinct then a.args.filterMap (·.collationName) else [])
    let windows := p.windows.flatMap fun w =>
      w.partition.filterMap (·.collationName) ++ w.order.filterMap (·.e.collationName) ++
        w.args.flatMap ex ++ w.filter.toList.flatMap ex ++
        (if comparesArguments w.fn 2 then (w.args.findSome? (·.collationName)).toList
         else [])
    let arms := p :: p.compound.map (·.2)
    let combined :=
      if p.compound.any (·.1 != .unionAll) || (!p.compound.isEmpty && !p.orderBy.isEmpty) then
        (List.range p.columns.length).filterMap fun k =>
          arms.findSome? fun arm => (arm.columns[k]?).bind (·.1.collationName)
      else []
    source ++ keys ++ p.filter.toList.flatMap ex ++ p.columns.flatMap (ex ·.1) ++
      aggregates ++ windows ++ p.having.toList.flatMap ex ++
      p.compound.flatMap (Plan.neededCollations fuel ·.2) ++ combined ++
      p.subplans.flatMap (Plan.neededCollations fuel)

/-- The first collation a planned query needs that the engine does not know. -/
def Plan.missingCollation? (p : Plan) : Option String :=
  (p.neededCollations planFuel).find? fun n => (Collation.ofName? n).isNone

/-- Resolves a query against a table, ready to run. A collation is looked up only where the
query compares or sorts under it, so an unknown name elsewhere is no error. -/
def Select.plan (schema : TableSchema) (q : Select) : Except EngineError Plan := do
  let c : Catalog := ⟨schema, [], [], none⟩
  checkExpansion c planFuel q
  let (p, st) ← (planQuery c planFuel [] q none).run ⟨none, [], none, none⟩
  match st.noted, st.deferred, p.missingCollation? with
  | some e, _, _ => throw e
  | none, some e, _ => throw e
  | none, none, some n => throw (.noSuchCollation n)
  | none, none, none => pure p

end Tabula.Sql
