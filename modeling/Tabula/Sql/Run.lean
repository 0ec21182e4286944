import Tabula.Sql.Window

/-!
# Running a query

A planned query runs over the rows it reads: the rows of the table in row-number order, the
rows of a subquery or a table function, the rows of several items joined, or one row of no
columns when it reads nothing. Its subqueries run when an expression needs them, seeing the
row of the query around them.

Items are joined one after another, each row read so far with each row of the next item, in
that order. An outer join's condition decides which pairs match: a `LEFT` join keeps a row
that matched nothing with `NULL`s for the new item, a `RIGHT` join adds the new item's rows
that matched nothing after the others, with `NULL`s for the items before.

The queries of a compound run in turn. Without an ordering, `UNION ALL` appends rows while
the other set operators keep one of equal rows (the last) and give their rows in the order of
their columns; with an ordering, rows are sorted stably by it and a set operator keeps the
first of equal rows. The limit and offset bound the combined rows.

A query without aggregates keeps the rows its `WHERE` accepts. Unless it is ordered, each row
is delivered as soon as it is computed; an ordered query computes every row and its ordering
keys first and delivers them after a stable sort, so an error on the way stops it before any
row is out. `DISTINCT` keeps the first of rows that are equal under the columns' collations;
`OFFSET` skips and `LIMIT` bounds the rows delivered, and once the limit is reached no
further row is read.

A query with aggregates without `GROUP BY` makes one group of every accepted row (no row at
all included). With `GROUP BY`, the accepted rows and their group keys are computed first;
the rows are then sorted stably by their keys and each run of equal keys is a group, which
is finished and delivered before the next group is taken. When the ordering is the grouping
itself, groups come out in that order (descending where the ordering says so); any other
ordering sorts the finished groups.

Plain columns of a group show one of its rows: the first, or, when the query uses `min` or
`max`, the last row that the last of these did not pass over. A group with no row shows
`NULL`.

A query with window functions first computes its rows (or its groups, after `HAVING`). Each
distinct window then sorts them stably by its partition and ordering keys and computes its
calls partition by partition, the last window first, so that the rows come out in the order of
the first window. They are delivered as they are computed, unless the query is ordered.
-/

namespace Tabula.Sql

/-- A table: its columns and its rows, in the order of their row numbers (from 1). -/
structure Table where
  schema : TableSchema
  rows : List (List Value)
  deriving Inhabited

/-- The rows of a table with their row numbers. -/
def Table.numbered (t : Table) : List (Nat × List Value) :=
  t.rows.zipIdx.map fun (r, i) => (i + 1, r)

/-- What a query delivers: its rows, and the error that stopped it, if one did. -/
structure Delivery where
  rows : List (List Value)
  error : Option EngineError
  deriving Inhabited

/-- Whether a row equals another under the columns' collations. -/
def sameRow (colls : List Collation) (a b : List Value) : Bool :=
  (a.zip (b.zip colls)).all fun (x, y, c) => x.same c y

/-- Rows on their way out: delivered rows (latest first), rows still to skip, rows still
allowed (`none` for no limit), the distinct rows seen, and, for an ordered query, the rows
waiting for the sort with their keys (latest first). -/
structure Sink where
  out : List (List Value)
  skip : Nat
  left : Option Nat
  seen : List (List Value)
  pending : List (List Value × List Value)
  deriving Inhabited

/-- Whether the limit has been reached. -/
def Sink.full (k : Sink) : Bool := k.left == some 0

/-- Delivers one row. -/
def Sink.deliver (k : Sink) (row : List Value) : Sink :=
  { k with out := row :: k.out, left := k.left.map (· - 1) }

/-- The collation a result column compares under. -/
def columnCollations (p : Plan) : List Collation :=
  p.columns.map fun (e, _) => e.collation.getD .binary

/-- Whether the query's rows are sorted before they go out. -/
def Plan.sorts (p : Plan) : Bool :=
  match p.orderBy with
  | [] => false
  | k :: _ =>
    if !p.windows.isEmpty then true
    else if !p.isAggregate then !(k.e matches .rowid)
    else !(p.groupBy.length == p.orderBy.length &&
      (p.orderBy.zip p.groupBy).all fun (k, g) => k.e == g && k.nullsFirst.isNone)

/-- Offers a candidate row, seen through `scope`, to the sink. A row that `cond` rejects is
dropped; a row still to be skipped is not computed unless `DISTINCT` needs it. -/
def Sink.offer (p : Plan) (q : Queries) (k : Sink) (scope : Scope) (cond : Option Expr) :
    Except EngineError Sink := do
  if let some c := cond then
    if !(← c.holdsIn q scope) then return k
  if !p.distinct && !p.sorts && k.skip > 0 then return { k with skip := k.skip - 1 }
  let values ← p.columns.mapM fun (e, _) => e.evaluate q scope
  if p.distinct && k.seen.any (sameRow (columnCollations p) values) then return k
  let k := if p.distinct then { k with seen := k.seen ++ [values] } else k
  if p.sorts then
    let keys ← p.orderBy.mapM fun t => t.e.evaluate q scope
    return { k with pending := (keys, values) :: k.pending }
  if k.skip > 0 then return { k with skip := k.skip - 1 }
  pure (k.deliver values)

/-- The rows of a sink once no more come: delivered rows, or the sorted rows within the
offset and the limit. -/
def Sink.finish (p : Plan) (k : Sink) : List (List Value) :=
  if p.sorts then
    let sorted := (sortByKeys p.orderBy k.pending.reverse).map (·.2)
    let kept := sorted.drop k.skip
    match k.left with
    | some n => kept.take n
    | none => kept
  else k.out.reverse

/-- What a query runs with: its subqueries, the session, and the scopes of the rows of the
queries around it, innermost first. -/
structure Context where
  queries : Queries
  session : Session
  outer : List Scope

/-- The scope of a row that was read. -/
def Context.rowScope (c : Context) (r : Nat × List Value) : Scope :=
  ⟨r.2, .integer r.1, [], [], c.session, c.outer⟩

/-- Offers the rows of a query without aggregates, in turn, until one fails or the limit is
reached. -/
def offerRows (p : Plan) (c : Context) :
    List (Nat × List Value) → Sink → Sink × Option EngineError
  | [], k => (k, none)
  | r :: rest, k =>
    if k.full then (k, none)
    else match k.offer p c.queries (c.rowScope r) p.filter with
      | .ok k => offerRows p c rest k
      | .error e => (k, some e)

/-- A group being taken: its running aggregates, the row its plain columns show, whether a
row has been taken, and whether the last `min` or `max` passed the row over. -/
structure GroupRun where
  running : List Running
  shown : Option (Nat × List Value)
  taken : Bool
  passed : Bool
  deriving Inhabited

/-- A group before its first row. -/
def Plan.beginGroup (p : Plan) : GroupRun :=
  ⟨p.aggregates.map AggregateCall.begin, none, false, false⟩

/-- Whether a query keeps, for each group, the flag of whether the group has taken a row: a
grouped query always does, one without grouping when each of its `min` and `max` calls has a
filter. -/
def Plan.keepsTakenFlag (p : Plan) : Bool :=
  !p.groupBy.isEmpty ||
    p.aggregates.all fun c => c.filter.isSome || !(AggregateKind.of c.fn c.args.length).picksRow

/-- Steps every aggregate with a row, in turn; `passed` follows each `min` and `max` that
stepped. A call's filter is tested before its arguments are computed. A `min` or `max` with a
filter first sets `passed` to `taken`, the flag of whether the group has taken a row, when the
query keeps that flag: so a group's first row is shown unless a `min` or `max` passes it over,
and a later row only when one of them takes it as its best value. -/
def stepAggregates (q : Queries) (scope : Scope) (taken : Option Bool) :
    List AggregateCall → List Running → Bool → Except EngineError (List Running × Bool)
  | c :: cs, r :: rs, passed => do
    let keep ← match c.filter with
      | some f => f.holdsIn q scope
      | none => pure true
    let passed := if c.filter.isSome && r.kind.picksRow then taken.getD passed else passed
    let (r', stepped) ← if keep then do
        let args ← aggregateArguments c.fn c.args q scope
        pure (r.step args)
      else pure (r, none)
    let passed := match stepped with
      | some s => if r.kind.picksRow then s else passed
      | none => passed
    let (rest, passed) ← stepAggregates q scope taken cs rs passed
    pure (r' :: rest, passed)
  | _, _, passed => pure ([], passed)

/-- Takes one row into a group. -/
def GroupRun.take (p : Plan) (c : Context) (g : GroupRun) (r : Nat × List Value) :
    Except EngineError GroupRun := do
  let taken := if p.keepsTakenFlag then some g.taken else none
  let (running, passed) ←
    stepAggregates c.queries (c.rowScope r) taken p.aggregates g.running g.passed
  let picks := g.running.any (·.kind.picksRow)
  let shows := if picks then !passed else !g.taken
  pure ⟨running, if shows then some r else g.shown, true, passed⟩

/-- Takes rows into a group in turn. -/
def GroupRun.takeAll (p : Plan) (c : Context) :
    GroupRun → List (Nat × List Value) → Except EngineError GroupRun
  | g, [] => pure g
  | g, r :: rest => do GroupRun.takeAll p c (← g.take p c r) rest

/-- The scope a finished group is seen through. -/
def GroupRun.scope (g : GroupRun) (width : Nat) (c : Context) : Except EngineError Scope := do
  let values ← g.running.mapM fun r => r.kind.finish r.acc
  let (row, rowid) := match g.shown with
    | some (i, r) => (r, Value.integer i)
    | none => (List.replicate width .null, .null)
  pure ⟨row, rowid, values, [], c.session, c.outer⟩

/-- Finishes a group and offers its row. -/
def Sink.offerGroup (p : Plan) (width : Nat) (c : Context) (k : Sink) (g : GroupRun) :
    Except EngineError Sink := do
  k.offer p c.queries (← g.scope width c) p.having

/-- Whether two rows belong to one group: their keys are equal under the keys' collations. -/
def sameGroup (colls : List Collation) (a b : List Value) : Bool := sameRow colls a b

/-- Splits rows sorted by their group keys into runs of equal keys. -/
def groupRuns (colls : List Collation) (rows : List (List Value × (Nat × List Value))) :
    List (List (Nat × List Value)) :=
  (runsBy (fun a b => sameGroup colls a.1 b.1) rows).map (·.map (·.2))

/-- Takes and offers groups in turn, until one fails or the limit is reached. -/
def offerGroups (p : Plan) (width : Nat) (c : Context) :
    List (List (Nat × List Value)) → Sink → Sink × Option EngineError
  | [], k => (k, none)
  | g :: rest, k =>
    if k.full then (k, none)
    else
      let step := do
        let run ← p.beginGroup.takeAll p c g
        k.offerGroup p width c run
      match step with
      | .ok k => offerGroups p width c rest k
      | .error e => (k, some e)

/-- Keeps the rows a filter accepts, with their group keys, until one fails. -/
def keyRows (p : Plan) (c : Context) :
    List (Nat × List Value) → Except EngineError (List (List Value × (Nat × List Value)))
  | [] => pure []
  | r :: rest => do
    let scope := c.rowScope r
    let keep ← match p.filter with
      | some f => f.holdsIn c.queries scope
      | none => pure true
    let here ← if keep then do
        let key ← p.groupBy.mapM fun e => e.evaluate c.queries scope
        pure [(key, r)]
      else pure []
    pure (here ++ (← keyRows p c rest))

/-- Takes the rows a filter accepts into one group, until one fails. -/
def takeFiltered (p : Plan) (c : Context) :
    GroupRun → List (Nat × List Value) → Except EngineError GroupRun
  | g, [] => pure g
  | g, r :: rest => do
    let keep ← match p.filter with
      | some f => f.holdsIn c.queries (c.rowScope r)
      | none => pure true
    takeFiltered p c (← if keep then g.take p c r else pure g) rest

/-- The sort terms of the grouping: each key's collation, descending where the ordering that
matches the grouping says so. -/
def Plan.groupTerms (p : Plan) : List SortKey :=
  p.groupBy.zipIdx.map fun (e, i) =>
    let descending := if p.sorts then false else ((p.orderBy[i]?).map (·.descending)).getD false
    ⟨e, descending, none, e.collation.getD .binary⟩

/-- The groups of an aggregate query, in the order they are taken. -/
def Plan.groups (p : Plan) (c : Context) (rows : List (Nat × List Value)) :
    Except EngineError (List (List (Nat × List Value))) := do
  let keyed ← keyRows p c rows
  let terms := p.groupTerms
  pure (groupRuns (terms.map (·.coll)) (sortByKeys terms keyed))

/-- The scopes of the rows a query computes before its window functions: the rows its filter
accepts, or its finished groups that `HAVING` accepts. -/
def Plan.baseScopes (p : Plan) (c : Context) (width : Nat) (rows : List (Nat × List Value)) :
    Except EngineError (List Scope) := do
  if !p.isAggregate then
    rows.filterMapM fun r => do
      let scope := c.rowScope r
      match p.filter with
      | some f => pure (if ← f.holdsIn c.queries scope then some scope else none)
      | none => pure (some scope)
  else
    let groups ← if p.groupBy.isEmpty then do
        pure [← takeFiltered p c p.beginGroup rows]
      else (← p.groups c rows).mapM (p.beginGroup.takeAll p c)
    groups.filterMapM fun g => do
      let scope ← g.scope width c
      match p.having with
      | some h => pure (if ← h.holdsIn c.queries scope then some scope else none)
      | none => pure (some scope)

/-- The distinct windows of a query, in the order they first appear, each with the indices of
the calls computed over it; repeats of calls over the first window make a window of their
own. -/
def Plan.windowLayers (p : Plan) : List (List Nat) :=
  p.windows.zipIdx.foldl (fun layers (w, i) =>
    let fits := fun (layer : List Nat) =>
      match layer.head? with
      | some j =>
        ((p.windows[j]?).map fun v => v.sameWindow w && v.repeated == w.repeated).getD false
      | none => false
    if layers.any fits then layers.map fun l => if fits l then l ++ [i] else l
    else layers ++ [[i]]) []

/-- A row of a window's input: its scope, its partition keys followed by its ordering keys,
and each call's arguments with whether its filter accepts the row. -/
structure WindowInput where
  scope : Scope
  keys : List Value
  calls : List (List Value × Bool)

/-- The keys and call arguments of one row for a window. -/
def WindowCall.input (w : WindowCall) (q : Queries) (calls : List WindowCall) (s : Scope) :
    Except EngineError WindowInput := do
  let part ← w.partition.mapM (·.evaluate q s)
  let order ← w.order.mapM (·.e.evaluate q s)
  let args ← calls.mapM fun c => do
    let vs ← aggregateArguments c.fn c.args q s
    let keep ← match c.filter with
      | some f => f.holdsIn q s
      | none => pure true
    pure (vs, keep)
  pure ⟨s, part ++ order, args⟩

/-- The partition terms of a window: each key ascending under its collation. -/
def WindowCall.partitionTerms (w : WindowCall) : List SortKey :=
  w.partition.map fun e => ⟨e, false, none, e.collation.getD .binary⟩

/-- Sets a window call's value in a scope. -/
def Scope.setWindow (s : Scope) (total i : Nat) (v : Value) : Scope :=
  let ws := if s.windows.length < total then List.replicate total Value.null else s.windows
  { s with windows := ws.set i v }

/-- Rows of a partition with their window values, in turn, until the first row whose value
failed. -/
def completeRows (total : Nat) (ids : List Nat) :
    List WindowInput → List (List (Except EngineError Value)) → List Scope × Option EngineError
  | row :: rows, vals :: more =>
    let rec fill (s : Scope) : List Nat → List (Except EngineError Value) →
        Except EngineError Scope
      | i :: is, v :: vs => do fill (s.setWindow total i (← v)) is vs
      | _, _ => pure s
    match fill row.scope ids vals with
    | .ok s =>
      let (rest, err) := completeRows total ids rows more
      (s :: rest, err)
    | .error e => ([], some e)
  | _, _ => ([], none)

/-- Computes the calls of one window over its rows: the rows in the window's order with the
values set, up to the first failure, and that failure. -/
def Plan.computeWindow (p : Plan) (c : Context) (ids : List Nat) (rows : List Scope) :
    Except EngineError (List Scope × Option EngineError) := do
  let calls := ids.map fun i => (p.windows[i]?).getD default
  let w := calls.headD default
  let inputs ← rows.mapM (w.input c.queries calls)
  let terms := w.partitionTerms ++ w.order
  let sorted := (sortByKeys terms (inputs.map fun r => (r.keys, r))).map (·.2)
  let width := w.partition.length
  let partitions := runsBy (fun a b =>
    compareKeys w.partitionTerms (a.keys.take width) (b.keys.take width) == .eq) sorted
  if partitions.isEmpty then return ([], none)
  let constant : Scope := ⟨[], .null, [], [], c.session, c.outer⟩
  let extent ← w.frame.extent (·.evaluate Queries.none constant)
  let total := p.windows.length
  let rec go : List (List WindowInput) → List Scope × Option EngineError
    | [] => ([], none)
    | part :: more =>
      let layout := Layout.of w.order (part.map fun r => r.keys.drop width)
      let perCall := calls.zipIdx.mapM fun ((call : WindowCall), k) =>
        let callRows : CallRows :=
          ⟨(part.map fun (r : WindowInput) => ((r.calls[k]?).map Prod.fst).getD []).toArray,
            (part.map fun (r : WindowInput) => ((r.calls[k]?).map Prod.snd).getD false).toArray⟩
        call.partitionValues extent layout callRows
      match perCall with
      | .error e => ([], some e)
      | .ok values =>
        let byRow := (List.range part.length).map fun i =>
          values.map fun (vs : List (Except EngineError Value)) => vs.getD i (pure .null)
        match completeRows total ids part byRow with
        | (done, some e) => (done, some e)
        | (done, none) =>
          let (rest, err) := go more
          (done ++ rest, err)
  pure (go partitions)

/-- Computes every window of a query, the last distinct window first: the rows in the order of
the first window, up to the first failure of that window, and that failure. A failure of any
other window stops everything. -/
def Plan.computeWindows (p : Plan) (c : Context) :
    List (List Nat) → List Scope → Except EngineError (List Scope × Option EngineError)
  | [], rows => pure (rows, none)
  | [main], rows => p.computeWindow c main rows
  | layer :: more, rows => do
    let (inner, err) ← p.computeWindows c more rows
    if let some e := err then throw e
    p.computeWindow c layer inner

/-- Offers rows with their window values, in turn, until one fails or the limit is
reached. -/
def offerScopes (p : Plan) (q : Queries) : List Scope → Sink → Sink × Option EngineError
  | [], k => (k, none)
  | s :: rest, k =>
    if k.full then (k, none)
    else match k.offer p q s none with
      | .ok k => offerScopes p q rest k
      | .error e => (k, some e)

/-- An integer a `LIMIT` or `OFFSET` must be: a numeric value that is an integer. -/
def mustBeInteger (v : Value) : Except EngineError Int :=
  match v.asNumeric with
  | .integer i => pure i
  | _ => throw .datatypeMismatch

/-- The limit and the offset of a query; `none` when the limit is zero. -/
def Plan.bounds (p : Plan) (c : Context) : Except EngineError (Option (Option Nat × Nat)) := do
  let scope : Scope := ⟨[], .null, [], [], c.session, c.outer⟩
  let limit ← p.limit.mapM fun e => do mustBeInteger (← e.evaluate c.queries scope)
  if limit == some 0 then return none
  let offset ← p.offset.mapM fun e => do mustBeInteger (← e.evaluate c.queries scope)
  let left := limit.bind fun n => if n > 0 then some n.toNat else none
  pure (some (left, (offset.getD 0).toNat))

/-- Runs a planned query over the rows it reads, given its context. -/
def Plan.runOver (p : Plan) (c : Context) (width : Nat) (rows : List (Nat × List Value)) :
    Delivery :=
  match p.bounds c with
  | .error e => ⟨[], some e⟩
  | .ok none => ⟨[], none⟩
  | .ok (some (left, skip)) =>
    let start : Sink := ⟨[], skip, left, [], []⟩
    let rows := match p.orderBy with
      | k :: _ =>
        if p.windows.isEmpty && !p.isAggregate && (k.e matches .rowid) && k.descending then
          rows.reverse
        else rows
      | [] => rows
    let (k, err) : Sink × Option EngineError :=
      if !p.windows.isEmpty then
        match p.baseScopes c width rows with
        | .error e => (start, some e)
        | .ok base =>
          match p.computeWindows c p.windowLayers base with
          | .error e => (start, some e)
          | .ok (done, failure) =>
            match offerScopes p c.queries done start with
            | (k, some e) => (k, some e)
            | (k, none) => (k, if k.full then none else failure)
      else if !p.isAggregate then offerRows p c rows start
      else if p.groupBy.isEmpty then
        match takeFiltered p c p.beginGroup rows with
        | .error e => (start, some e)
        | .ok g =>
          match start.offerGroup p width c g with
          | .ok k => (k, none)
          | .error e => (start, some e)
      else
        match p.groups c rows with
        | .error e => (start, some e)
        | .ok groups => offerGroups p width c groups start
    match err with
    | some e => ⟨if p.sorts then [] else k.out.reverse, some e⟩
    | none => ⟨k.finish p, none⟩

/-- The rows a query delivered, or the error that stopped it. -/
def Delivery.toExcept (d : Delivery) : Except EngineError (List (List Value)) :=
  match d.error with
  | some e => throw e
  | none => pure d.rows

/-- The value a setting holds. -/
def SettingValue.toValue : SettingValue → Value
  | .number n => .integer n
  | .word s => .ofString s

/-- The tables of the session as the table list shows them, each with the name by which its
argument picks it: the stored table, then the schema tables of the main and the temporary
database. -/
def tableListRows (t : Table) : List (String × List Value) :=
  [(t.schema.name, [.ofString "main", .ofString t.schema.name, .ofString "table",
      .integer t.schema.columns.length, .integer 0, .integer 0]),
   ("sqlite_master", [.ofString "main", .ofString "sqlite_schema", .ofString "table",
      .integer 5, .integer 0, .integer 0]),
   ("sqlite_temp_master", [.ofString "temp", .ofString "sqlite_temp_schema",
      .ofString "table", .integer 5, .integer 0, .integer 0])]

/-- Whether a check of one table finds it: the stored table and the main schema table in the
main database, the temporary schema table in either (the main one only by its own names). -/
def checkedTableExists (t : Table) (database : Option String) (name : String) : Bool :=
  let temp := ["sqlite_temp_master", "sqlite_temp_schema"].any (sameName name)
  let main := sameName name t.schema.name ||
    ["sqlite_master", "sqlite_schema"].any (sameName name)
  match database with
  | some d => if sameName d "temp" then temp else main
  | none => temp || main

/-- The rows a listing gives for its argument and database. -/
def Listing.rows (l : Listing) (t : Table) (arg database : Option String) :
    Except EngineError (List (List Value)) := do
  match l with
  | .tableList =>
    pure ((tableListRows t).filterMap fun (n, r) =>
      if arg.all (sameName n) then some r else none)
  | .integrityCheck | .quickCheck | .foreignKeyCheck =>
    if let some n := arg then
      if !checkedTableExists t database n then
        throw (.noSuchTable (shownTableName (database.map lowerName) n))
    pure (if l == .foreignKeyCheck then [] else [[.ofString "ok"]])
  | .collationList =>
    pure [[.integer 0, .ofString "RTRIM"], [.integer 1, .ofString "NOCASE"],
      [.integer 2, .ofString "BINARY"]]
  | _ => pure []

/-- The rows a table function gives for its arguments, each with its visible columns, then
its hidden ones, then its row number: the members or values of a JSON document (numbered
from 0), the columns of the table, the options the engine was built with, a listing or a
setting (numbered from 1, their hidden columns holding the arguments as text, a setting's
holding nothing). A database named as an argument must be the main or the temporary one.
The main schema table has one row, for the stored table: its statement, and root page 2, the
page after the schema's own in a fresh database; the temporary schema table has none. -/
def TableFunction.rows (f : TableFunction) (t : Table) (args : List Value) :
    Except EngineError (List (List Value)) := do
  if f == .jsonEach || f == .jsonTree then
    let rows ← jsonTableRows (f == .jsonTree) args
    return rows.zipIdx.map fun (r, i) => r ++ [.integer i]
  let given := f.columns.2.zipIdx.map fun (c, i) => (c, (args[i]?).bind Value.toText?)
  let asName := fun (bs : List UInt8) => String.ofList (Text.lenientChars bs)
  let argument := ((given.lookup "arg").join).map asName
  let database := ((given.lookup "schema").join).map asName
  if let some d := database then
    if !(sameName d "main" || sameName d "temp") then throw (.unknownDatabase d)
  let hidden := given.map fun (_, v) =>
    if f matches .setting _ then Value.null else (v.map Value.text).getD .null
  let inMain := database.all (sameName "main")
  let rows : List (List Value) ← match f with
    | .tableInfo | .tableXInfo =>
      let named := match argument with
        | some n => inMain && sameName n t.schema.name
        | none => false
      pure (if !named then [] else t.schema.columns.zipIdx.map fun (col, i) =>
        [.integer i, .ofString col.name, .ofString col.typeName, .integer 0, .null, .integer 0] ++
          (if f == .tableXInfo then [.integer 0] else []))
    | .compileOptions => pure (buildOptions.map fun o => [.ofString o])
    | .listing l => l.rows t argument database
    | .setting s => pure [[s.value.toValue]]
    | .schema temp =>
      pure (if temp then [] else
        [[.ofString "table", .ofString t.schema.name, .ofString t.schema.name, .integer 2,
          .ofString t.schema.definition]])
    | .jsonEach | .jsonTree => pure []
  pure (rows.zipIdx.map fun (r, i) => r ++ hidden ++ [.integer (i + 1)])

/-- The rows an item of a join reads, each with its row number after its columns when names
can reach it; `work` holds the rows a recursive query has reached so far. -/
def joinStepRows (t : Table) (q : Queries) (scope : Scope) (work : List (List Value))
    (runSub : Plan → Except EngineError (List (List Value))) (step : JoinStep) :
    Except EngineError (List (List Value)) :=
  match step.source with
  | .working => pure work
  | .table =>
    pure (t.numbered.map fun (n, r) => r ++ if step.numbered then [.integer n] else [])
  | .query p => runSub p
  | .function f args => do
    let rows ← f.rows t (← args.mapM (·.evaluate q scope))
    pure (if step.numbered then rows else rows.map List.dropLast)
  | _ => pure [[]]

/-- Joins the rows read so far (each `leftWidth` values) with the rows of one more item. A
pair is kept when the item's condition holds on it, seen with `NULL` for the items not yet
joined; a `LEFT` join keeps a left row that matched nothing with `NULL`s, and a `RIGHT` join
adds the right rows that matched nothing after all others. -/
def joinWith (q : Queries) (session : Session) (outer : List Scope) (total leftWidth : Nat)
    (step : JoinStep) (rightsOf : List Value → Except EngineError (List (List Value)))
    (lefts : List (List Value)) : Except EngineError (List (List Value)) := do
  let holds := fun (row : List Value) => match step.on with
    | none => pure true
    | some cond =>
      cond.holdsIn q ⟨row ++ List.replicate (total - row.length) .null, .null, [], [], session,
        outer⟩
  let nulls := List.replicate step.width Value.null
  let (out, matched) ← lefts.foldlM (fun (acc : List (List Value) × List Nat) l => do
    let rights ← rightsOf l
    let hits ← rights.zipIdx.filterM fun (r, _) => holds (l ++ r)
    let here := if hits.isEmpty && step.op.left then [l ++ nulls] else hits.map (l ++ ·.1)
    pure (acc.1 ++ here, acc.2 ++ hits.map (·.2))) ([], [])
  if step.op.right then
    let blank := List.replicate leftWidth Value.null
    let rights ← rightsOf blank
    let unmatched := rights.zipIdx.filter fun (_, i) => !matched.contains i
    pure (out ++ unmatched.map (blank ++ ·.1))
  else pure out

/-- The rows of items joined in turn, from one row of no values. -/
def joinAll (t : Table) (q : Queries) (session : Session) (outer : List Scope)
    (work : List (List Value)) (runSub : Plan → Except EngineError (List (List Value)))
    (steps : List JoinStep) :
    Except EngineError (List (List Value)) := do
  let total := (steps.map (·.width)).foldr (· + ·) 0
  let (rows, _) ← steps.foldlM (fun (acc : List (List Value) × Nat) step => do
    let fixed : Option (List (List Value)) ← match step.source with
      | .function _ _ => pure none
      | _ => some <$> joinStepRows t q ⟨[], .null, [], [], session, outer⟩ work runSub step
    let rightsOf := fun (l : List Value) => match fixed with
      | some rows => pure rows
      | none =>
        joinStepRows t q ⟨l ++ List.replicate (total - l.length) .null, .null, [], [], session,
          outer⟩ work runSub step
    let rows ← joinWith q session outer total acc.2 step rightsOf acc.1
    pure (rows, acc.2 + step.width)) ([[]], 0)
  pure rows

/-- The values of the result columns that compound ordering keys name. -/
def keyValues (keys : List SortKey) (row : List Value) : List Value :=
  keys.map fun k => match k.e with
    | .column i _ => row.getD i .null
    | _ => .null

/-- Rows sorted stably by ordering keys over their columns. -/
def sortRows (keys : List SortKey) (rows : List (List Value)) : List (List Value) :=
  (sortByKeys keys (rows.map fun r => (keyValues keys r, r))).map (·.2)

/-- Whether two rows are equal under ordering keys over their columns. -/
def sameUnder (keys : List SortKey) (a b : List Value) : Bool :=
  compareKeys keys (keyValues keys a) (keyValues keys b) == .eq

/-- The keys of a compound's ordering with a key added, in column order, for each column
that none names. -/
def extendKeys (colls : List Collation) (keys : List SortKey) : List SortKey :=
  keys ++ (colls.zipIdx.filter fun (_, i) => !keys.any (·.e == .column i .blob)).map
    fun (cl, i) => ⟨.column i .blob, false, none, cl⟩

/-- The rows of `l` that a row of `r` equals under `keys` (`keep`), or that none equals,
both sorted by `keys`: one walk through the two, each step passing over the lesser row. -/
def matchSorted (keys : List SortKey) (keep : Bool) :
    List (List Value) → List (List Value) → List (List Value)
  | [], _ => []
  | l, [] => if keep then [] else l
  | x :: xs, y :: ys =>
    match compareKeys keys (keyValues keys x) (keyValues keys y) with
    | .lt =>
      let rest := matchSorted keys keep xs (y :: ys)
      if keep then rest else x :: rest
    | .gt => matchSorted keys keep (x :: xs) ys
    | .eq =>
      let rest := matchSorted keys keep xs (y :: ys)
      if keep then x :: rest else rest
termination_by l r => l.length + r.length

/-- Combines rows sorted by `keys` with the rows, sorted alike, of one more query of an
ordered compound: the result is sorted by `keys`; of equal rows the first is kept, and the
left rows come first among equal keys. -/
def combineSorted (keys : List SortKey) (op : SetOp) (l r : List (List Value)) :
    List (List Value) :=
  let same := sameUnder keys
  let firsts := fun (rows : List (List Value)) => (runsBy same rows).filterMap (·.head?)
  match op with
  | .unionAll => sortRows keys (l ++ r)
  | .union => firsts (sortRows keys (l ++ r))
  | .intersect => matchSorted keys true (firsts l) r
  | .except => matchSorted keys false (firsts l) r

/-- The rows of an ordered compound, its queries' rows given last first. Each set operator
other than `UNION ALL` orders by every column, those the ordering does not name after the
others, so that equal rows are whole duplicates. -/
def orderedRows (colls : List Collation) (first : List (List Value)) :
    List SortKey → List (SetOp × List (List Value)) → List (List Value)
  | keys, [] => sortRows keys first
  | keys, (op, rows) :: before =>
    let keys := if op == .unionAll then keys else extendKeys colls keys
    combineSorted keys op (orderedRows colls first keys before) (sortRows keys rows)

/-- Combines the rows so far with the rows of one more query of an unordered compound. A
set operator keeps one of equal rows (the last seen) and gives its rows in the order of
their columns; `UNION ALL` appends. -/
def combineUnordered (colls : List Collation) (op : SetOp) (l r : List (List Value)) :
    List (List Value) :=
  let keys := extendKeys colls []
  let same := sameUnder keys
  let set := fun (rows : List (List Value)) =>
    (runsBy same (sortRows keys rows)).filterMap (·.getLast?)
  match op with
  | .unionAll => l ++ r
  | .union => set (l ++ r)
  | .intersect => matchSorted keys true (set l) (sortRows keys r)
  | .except => matchSorted keys false (set l) (sortRows keys r)

/-- The rows of a compound, given the rows of each of its queries, before the limit. -/
def compoundRows (colls : List Collation) (keys : List SortKey) (first : List (List Value))
    (arms : List (SetOp × List (List Value))) : List (List Value) :=
  if keys.isEmpty then arms.foldl (fun acc (op, rows) => combineUnordered colls op acc rows) first
  else orderedRows colls first keys arms.reverse

/-- How many rows a recursive query may take in turn. -/
def recursionFuel : Nat := 1000000

/-- The position of the row to take next from the rows waiting: the first, or under an
ordering the first of the least. -/
def nextIndex (order : List SortKey) (queue : List (List Value)) : Nat :=
  if order.isEmpty then 0
  else
    let least := queue.zipIdx.foldl (fun (best : Option (List Value × Nat)) (r, i) =>
      match best with
      | none => some (r, i)
      | some (b, j) =>
        if compareKeys order (keyValues order r) (keyValues order b) == .lt then some (r, i)
        else some (b, j)) none
    (least.map (·.2)).getD 0

/-- A recursive query under way: the rows waiting, the rows seen (kept for a distinct
recursion), the rows delivered (latest first), the rows still to skip, and the rows still
allowed (`none` for no limit). -/
structure Recursion where
  queue : List (List Value)
  seen : List (List Value)
  out : List (List Value)
  skip : Nat
  left : Option Nat

/-- Adds new rows to those waiting; a distinct recursion drops a row equal (under binary
comparison) to one seen before. -/
def Recursion.enqueue (distinct : Bool) (r : Recursion) (rows : List (List Value)) :
    Recursion :=
  rows.foldl (fun r row =>
    if !distinct then { r with queue := r.queue ++ [row] }
    else if r.seen.any (sameRow (row.map fun _ => Collation.binary) row) then r
    else { r with queue := r.queue ++ [row], seen := r.seen ++ [row] }) r

/-- Runs a recursion until no row waits or the limit is reached: each row taken is delivered
(unless still to skip) and `stepRows` gives the rows it leads to. -/
def Recursion.run (order : List SortKey) (distinct : Bool)
    (stepRows : List Value → Except EngineError (List (List Value))) :
    Nat → Recursion → Except EngineError (List (List Value))
  | 0, r => pure r.out.reverse
  | fuel + 1, r =>
    if r.queue.isEmpty then pure r.out.reverse
    else
      let i := nextIndex order r.queue
      let row := r.queue.getD i []
      let r := { r with queue := r.queue.eraseIdx i }
      let r := if r.skip > 0 then { r with skip := r.skip - 1 }
        else { r with out := row :: r.out, left := r.left.map (· - 1) }
      if r.left == some 0 then pure r.out.reverse
      else do
        let rows ← stepRows row
        Recursion.run order distinct stepRows fuel (r.enqueue distinct rows)

/-- The limit and the offset of a recursion, evaluated: `none` when the limit is zero. -/
def recursionBounds (c : Context) (limit offset : Option Expr) :
    Except EngineError (Option (Option Nat × Nat)) :=
  ({ (default : Plan) with limit, offset }).bounds c

/-- Whether a query, or a query inside it, reads a value of a query around it more than
`depth` levels out. Its own expressions count `depth` levels as inside, the subqueries of its
expressions one level more, and the items it reads and the queries it is combined with as
many as it. Out of fuel it is taken to read one. -/
def Plan.reachesOut : Nat → Nat → Plan → Bool
  | 0, _, _ => true
  | fuel + 1, depth, p =>
    let reaches := fun (e : Expr) =>
      e.anyInside (fun x => match x with
        | .outer d _ => depth < d
        | _ => false) walkFuel
    let bound := fun (b : FrameBound) => match b with
      | .preceding e | .following e => reaches e
      | _ => false
    let item := fun (s : PlanSource) => match s with
      | .query q => Plan.reachesOut fuel depth q
      | .function _ args => args.any reaches
      | _ => false
    let source := match p.source with
      | .joined steps => steps.any fun st => st.on.any reaches || item st.source
      | .recursive setup steps _ order limit offset =>
        Plan.reachesOut fuel depth setup || steps.any (Plan.reachesOut fuel depth) ||
          order.any (reaches ·.e) || limit.any reaches || offset.any reaches
      | s => item s
    p.columns.any (reaches ·.1) || p.filter.any reaches || p.groupBy.any reaches ||
      p.having.any reaches || p.orderBy.any (reaches ·.e) ||
      p.aggregates.any (fun a => a.args.any reaches || a.filter.any reaches) ||
      p.windows.any (fun w => w.args.any reaches || w.filter.any reaches ||
        w.partition.any reaches || w.order.any (reaches ·.e) || bound w.frame.start ||
        bound w.frame.finish) ||
      p.limit.any reaches || p.offset.any reaches || source ||
      p.subplans.any (Plan.reachesOut fuel (depth + 1)) ||
      p.compound.any (Plan.reachesOut fuel depth ·.2)

/-- Runs a planned query over a table, given the scopes of the rows of the queries around it
(innermost first) and the rows a recursive query has reached so far. Its subqueries run with
the scope of the row that needs them added in front, once only when they read nothing of the
rows around them; the items it reads run with the same scopes as it. The queries of a compound
run in turn, and their rows are combined, ordered and bounded. -/
def Plan.runIn (t : Table) (session : Session) :
    Nat → Plan → List Scope → List (List Value) → Delivery
  | 0, _, _, _ => ⟨[], some .expressionTooDeep⟩
  | fuel + 1, p, outer, work =>
    -- a subquery that reads nothing of the rows around it gives the same rows for every row
    -- that needs it: it runs once, when first needed
    let once := p.subplans.map fun sub =>
      if sub.reachesOut walkFuel 0 then none
      else some (Thunk.mk fun _ => (Plan.runIn t session fuel sub [] []).toExcept)
    let queries : Queries := fun i s =>
      match once[i]?, p.subplans[i]? with
      | some (some rows), _ => rows.get
      | _, some sub => (Plan.runIn t session fuel sub (s :: s.outer) []).toExcept
      | _, none => throw (.unsupported "subqueries here")
    let c : Context := ⟨queries, session, outer⟩
    let runSub := fun (sub : Plan) => (Plan.runIn t session fuel sub outer []).toExcept
    if !p.compound.isEmpty then
      let head := { p with compound := [], orderBy := [], limit := none, offset := none }
      let plans := head :: p.compound.map (·.2)
      let colls := (p.columns.zipIdx.map (·.2)).map (compoundCollation plans)
      let result : Except EngineError (List (List Value)) := do
        let bounds ← p.bounds c
        match bounds with
        | none => pure []
        | some (left, skip) =>
          let first ← runSub head
          let arms ← p.compound.mapM fun (op, arm) => do pure (op, ← runSub arm)
          let rows := (compoundRows colls p.orderBy first arms).drop skip
          pure (match left with
            | some n => rows.take n
            | none => rows)
      match result with
      | .ok rows => ⟨rows, none⟩
      | .error e => ⟨[], some e⟩
    else
    match p.source with
    | .none => p.runOver c 0 [(0, [])]
    | .table => p.runOver c t.schema.columns.length t.numbered
    | .query sub =>
      match runSub sub with
      | .error e => ⟨[], some e⟩
      | .ok rows => p.runOver c (sub.columns.length) (rows.zipIdx.map fun (r, i) => (i + 1, r))
    | .function f args =>
      let scope : Scope := ⟨[], .null, [], [], session, outer⟩
      let rows : Except EngineError (List (Nat × List Value)) := do
        let rows ← f.rows t (← args.mapM (·.evaluate queries scope))
        pure (rows.map fun r => (match r.getLast? with
          | some (.integer n) => n.toNat
          | _ => 0, r.dropLast))
      match rows with
      | .error e => ⟨[], some e⟩
      | .ok rows => p.runOver c (f.columns.1.length + f.columns.2.length) rows
    | .joined steps =>
      match joinAll t queries session outer work runSub steps with
      | .error e => ⟨[], some e⟩
      | .ok rows => p.runOver c ((steps.map (·.width)).foldr (· + ·) 0) (rows.map (0, ·))
    | .working => p.runOver c p.columns.length (work.map (0, ·))
    | .recursive setup steps distinct order limit offset =>
      let stepRows := fun (row : List Value) =>
        steps.flatMapM fun step => (Plan.runIn t session fuel step outer [row]).toExcept
      let rows : Except EngineError (List (List Value)) := do
        match ← recursionBounds c limit offset with
        | none => pure []
        | some (left, skip) =>
          let start : Recursion := ⟨[], [], [], skip, left⟩
          let start := start.enqueue distinct (← runSub setup)
          Recursion.run order distinct stepRows recursionFuel start
      match rows with
      | .error e => ⟨[], some e⟩
      | .ok rows => p.runOver c p.columns.length (rows.map (0, ·))

/-- Runs a planned query over a table. -/
def Plan.run (p : Plan) (t : Table) (session : Session) : Delivery :=
  Plan.runIn t session planFuel p [] []

end Tabula.Sql
