import Tabula.Sql.Aggregate

/-!
# Window functions

A window function computes a value for each row of a partition from the rows around it.
The rows of a partition come in the window's order. Rows whose ordering keys are equal are
peers and form a peer group; without an ordering the whole partition is one group.

The frame of a row is the run of rows from its start bound to its end bound:

* `ROWS` bounds count rows: `k PRECEDING` is the row `k` rows before the current one.
* `GROUPS` bounds count peer groups: `k PRECEDING` starts at the first row of the group `k`
  groups before the current row's group, and ends at the last row of that group.
* `RANGE` bounds compare ordering keys: `k PRECEDING` starts at the first row whose key is
  not below the current key minus `k` (plus `k` when the order is descending). A key that is
  not a number is compared as it is. `CURRENT ROW` is the current row's peer group.

`EXCLUDE` takes out of the frame the current row, its peer group, or its peers other than
itself.

* The ranking functions read the peer groups. `rank` is one more than the number of rows
  before the current group, and `dense_rank` is the group's number.
* `lead` and `lag` read the row a given number of rows away.
* `first_value`, `last_value` and `nth_value` read the frame's rows.
* An aggregate over a moving frame is kept the way a sliding window keeps it: rows that leave
  the frame are taken back out of the running totals, then rows that enter it are added, so
  doubles are summed in that order.
* `min`, `max` and `group_concat` are computed afresh from each frame's rows, and so is every
  aggregate over a frame with `EXCLUDE`.
-/

namespace Tabula.Sql

/-- How two values compare as ordering keys: `NULL` first, or last when `NULLS` says so
against the direction; reversed when descending. -/
def SortKey.compareValues (t : SortKey) (a b : Value) : Ordering :=
  let o := a.compare t.coll b
  let nullInvolved := a matches .null || b matches .null
  if t.nullsFirst == some t.descending then
    if t.descending != nullInvolved then o.swap else o
  else if t.descending then o.swap else o

/-- How two rows' keys compare under the ordering terms, term by term. -/
def compareKeys : List SortKey → List Value → List Value → Ordering
  | t :: ts, a :: as, b :: bs =>
    match t.compareValues a b with
    | .eq => compareKeys ts as bs
    | o => o
  | _, _, _ => .eq

/-- A stable sort by keys. -/
def sortByKeys {α : Type} (terms : List SortKey) (xs : List (List Value × α)) :
    List (List Value × α) :=
  xs.mergeSort fun a b => compareKeys terms a.1 b.1 != .gt

/-- Splits a list into runs of neighbours that `same` relates. -/
def runsBy {α : Type} (same : α → α → Bool) : List α → List (List α)
  | [] => []
  | a :: rest =>
    match runsBy same rest with
    | (b :: run) :: runs => if same a b then (a :: b :: run) :: runs else [a] :: (b :: run) :: runs
    | runs => [a] :: runs

/-- A frame bound with its offset evaluated and checked. -/
inductive Bound where
  | unboundedPreceding
  | preceding (k : Value)
  | currentRow
  | following (k : Value)
  | unboundedFollowing

/-- A frame with its offsets evaluated and checked. -/
structure Extent where
  unit : FrameUnit
  start : Bound
  finish : Bound
  exclude : FrameExclusion

/-- Checks a frame offset: `ROWS` and `GROUPS` need a non-negative integer (a value that
spells one will do), `RANGE` a non-negative number. -/
def checkOffset (unit : FrameUnit) (start : Bool) (v : Value) : Except EngineError Value :=
  let bad := EngineError.frameOffset start (unit == .range)
  if unit == .range then
    match v.numericForCompare with
    | .integer i => if i ≥ 0 then pure v else throw bad
    | .real r => if r ≥ 0.0 then pure v else throw bad
    | _ => throw bad
  else
    match v.asNumeric with
    | .integer i => if i ≥ 0 then pure (.integer i) else throw bad
    | _ => throw bad

/-- A frame bound with its offset evaluated by `eval` and checked. -/
def FrameBound.evaluate (eval : Expr → Except EngineError Value) (unit : FrameUnit)
    (start : Bool) : FrameBound → Except EngineError Bound
  | .unboundedPreceding => pure .unboundedPreceding
  | .preceding e => do pure (.preceding (← checkOffset unit start (← eval e)))
  | .currentRow => pure .currentRow
  | .following e => do pure (.following (← checkOffset unit start (← eval e)))
  | .unboundedFollowing => pure .unboundedFollowing

/-- A frame with its offsets evaluated by `eval` and checked, the start first. -/
def Frame.extent (eval : Expr → Except EngineError Value) (f : Frame) :
    Except EngineError Extent := do
  let start ← f.start.evaluate eval f.unit true
  let finish ← f.finish.evaluate eval f.unit false
  pure ⟨f.unit, start, finish, f.exclude⟩

/-- Whether a frame is empty for every row: counted bounds on the same side whose offsets
put the start after the end. -/
def Extent.alwaysEmpty (x : Extent) : Bool :=
  x.unit != .range && match x.start, x.finish with
    | .preceding a, .preceding b => a.toInt < b.toInt
    | .following a, .following b => a.toInt > b.toInt
    | _, _ => false

/-- The peer group numbers of rows from the one after a row with keys `prev` in group `id`. -/
def peerIdsFrom (terms : List SortKey) (id : Nat) (prev : List Value) :
    List (List Value) → List Nat
  | [] => []
  | k :: rest =>
    let next := if compareKeys terms prev k == .eq then id else id + 1
    next :: peerIdsFrom terms next k rest

/-- The peer group number of each row, given the rows' ordering keys in order. -/
def peerIds (terms : List SortKey) : List (List Value) → List Nat
  | [] => []
  | k :: rest => 0 :: peerIdsFrom terms 0 k rest

/-- A partition as frames see it: its size, the ordering term that `RANGE` offsets compare
under, each row's first ordering key, each row's peer group, and the first and last row of
each group. -/
structure Layout where
  size : Nat
  order : Option SortKey
  firstKeys : Array Value
  groupOf : Array Nat
  starts : Array Nat
  ends : Array Nat

/-- The layout of a partition whose rows have the given ordering keys. -/
def Layout.of (terms : List SortKey) (keys : List (List Value)) : Layout :=
  let ids := peerIds terms keys
  let numbered := ids.zipIdx
  let starts := numbered.filter fun (g, i) => i == 0 || ids[i - 1]? != some g
  let ends := numbered.filter fun (g, i) => ids[i + 1]? != some g
  ⟨keys.length, terms.head?, (keys.map (·.headD .null)).toArray, ids.toArray,
    (starts.map (·.2)).toArray, (ends.map (·.2)).toArray⟩

/-- The peer group of a row. -/
def Layout.group (l : Layout) (i : Nat) : Nat := l.groupOf[i]?.getD 0

/-- The first row of a row's peer group. -/
def Layout.groupStart (l : Layout) (i : Nat) : Nat := l.starts[l.group i]?.getD 0

/-- The last row of a row's peer group. -/
def Layout.groupEnd (l : Layout) (i : Nat) : Nat := l.ends[l.group i]?.getD 0

/-- The key a `RANGE` offset bound of row `i` compares with: the row's key moved by `k`
forward (`ahead`) or back in the window's order; a key that is not a number stays. -/
def Layout.rangeTarget (l : Layout) (i : Nat) (k : Value) (ahead : Bool) : Value :=
  let key := l.firstKeys[i]?.getD .null
  let descending := (l.order.map (·.descending)).getD false
  match key with
  | .integer _ | .real _ => arithmetic (if ahead != descending then .add else .sub) key k
  | _ => key

/-- How a row's key compares with a `RANGE` target under the window's order. -/
def Layout.compareTarget (l : Layout) (j : Nat) (target : Value) : Ordering :=
  match l.order with
  | some t => t.compareValues (l.firstKeys[j]?.getD .null) target
  | none => .eq

/-- The first row whose key is not before a `RANGE` target, or the size if none. -/
def Layout.rangeStart (l : Layout) (target : Value) : Int :=
  (((List.range l.size).find? fun j => l.compareTarget j target != .lt).getD l.size : Nat)

/-- The last row whose key is not after a `RANGE` target, or `-1` if none. -/
def Layout.rangeEnd (l : Layout) (target : Value) : Int :=
  match (List.range l.size).reverse.find? fun j => l.compareTarget j target != .gt with
  | some j => j
  | none => -1

/-- The first row of the frame of row `i`; the size or more when the frame starts past the
partition. -/
def Layout.frameStart (l : Layout) (unit : FrameUnit) (i : Nat) : Bound → Int
  | .unboundedPreceding => 0
  | .currentRow => if unit == .rows then i else l.groupStart i
  | .preceding k =>
    match unit with
    | .rows => max 0 (i - k.toInt)
    | .groups =>
      if (l.group i : Int) ≥ k.toInt then l.starts[l.group i - k.toInt.toNat]?.getD 0 else 0
    | .range => l.rangeStart (l.rangeTarget i k false)
  | .following k =>
    match unit with
    | .rows => i + k.toInt
    | .groups => l.starts[l.group i + k.toInt.toNat]?.getD l.size
    | .range => l.rangeStart (l.rangeTarget i k true)
  | .unboundedFollowing => l.size

/-- The last row of the frame of row `i`; negative when the frame ends before the
partition. -/
def Layout.frameEnd (l : Layout) (unit : FrameUnit) (i : Nat) : Bound → Int
  | .unboundedPreceding => -1
  | .currentRow => if unit == .rows then i else l.groupEnd i
  | .preceding k =>
    match unit with
    | .rows => i - k.toInt
    | .groups =>
      if (l.group i : Int) ≥ k.toInt then l.ends[l.group i - k.toInt.toNat]?.getD 0 else -1
    | .range => l.rangeEnd (l.rangeTarget i k false)
  | .following k =>
    match unit with
    | .rows => min (i + k.toInt) (l.size - 1 : Int)
    | .groups => (l.ends[l.group i + k.toInt.toNat]?.getD (l.size - 1) : Nat)
    | .range => l.rangeEnd (l.rangeTarget i k true)
  | .unboundedFollowing => (l.size : Int) - 1

/-- The frame of row `i`: its first and last row, within the partition. -/
def Layout.frame (l : Layout) (x : Extent) (i : Nat) : Nat × Int :=
  ((max 0 (l.frameStart x.unit i x.start)).toNat,
    min (l.frameEnd x.unit i x.finish) ((l.size : Int) - 1))

/-- Whether row `j` is taken out of the frame of row `i`. -/
def Layout.excluded (l : Layout) (ex : FrameExclusion) (i j : Nat) : Bool :=
  match ex with
  | .noOthers => false
  | .currentRow => j == i
  | .group => l.group j == l.group i
  | .ties => j != i && l.group j == l.group i

/-- The rows of the frame of row `i`, those taken out excluded. -/
def Layout.frameRows (l : Layout) (x : Extent) (i : Nat) : List Nat :=
  let (s, e) := l.frame x i
  (List.range' s ((e + 1).toNat - s)).filter fun j => !l.excluded x.exclude i j

/-- What a window call computes. -/
inductive WindowKind where
  | rowNumber
  | rank
  | denseRank
  | percentRank
  | cumeDist
  | ntile
  | lead
  | lag
  | firstValue
  | lastValue
  | nthValue
  | aggregate (k : AggregateKind)

/-- What a call computes, by its name and number of arguments. -/
def WindowKind.of (name : String) (arity : Nat) : WindowKind :=
  match lowerName name with
  | "row_number" => .rowNumber
  | "rank" => .rank
  | "dense_rank" => .denseRank
  | "percent_rank" => .percentRank
  | "cume_dist" => .cumeDist
  | "ntile" => .ntile
  | "lead" => .lead
  | "lag" => .lag
  | "first_value" => .firstValue
  | "last_value" => .lastValue
  | "nth_value" => .nthValue
  | _ => .aggregate (AggregateKind.of name arity)

/-- The bucket of row `i` when `n` rows are dealt into `parts` buckets as evenly as they go,
the larger buckets first. -/
def ntileOf (parts : Int) (n i : Nat) : Int :=
  let size := (n : Int) / parts
  if size == 0 then i + 1
  else
    let large := n - parts * size
    let small := large * (size + 1)
    if i < small then 1 + i / (size + 1) else 1 + large + (i - small) / size

/-- The arguments of a call at each row of a partition, and whether its filter accepts the
row. -/
structure CallRows where
  args : Array (List Value)
  keep : Array Bool

/-- The `k`-th argument of a call at row `i`. -/
def CallRows.arg (r : CallRows) (i k : Nat) : Value := ((r.args[i]?).bind (·[k]?)).getD .null

/-- The value of `lead` (`ahead`) or `lag` at row `i` of `n`: the first argument at the row
that many rows away (one by default), counting rows from 1 and the distance as arithmetic
does; the default (the third argument, or `NULL`) when there is no such row. -/
def CallRows.shifted (r : CallRows) (n i : Nat) (ahead : Bool) : Value :=
  let here := (r.args[i]?).getD []
  let rowNumber : Value := .integer (i + 1)
  let target := match here[1]? with
    | none => Value.integer (if ahead then i + 2 else i)
    | some k => arithmetic (if ahead then .add else .sub) rowNumber k
  match target.asNumeric with
  | .integer j => if 1 ≤ j && j ≤ n then r.arg (j - 1).toNat 0 else here[2]?.getD .null
  | _ => here[2]?.getD .null

/-- The number `nth_value` is given at a row, which must be a positive integer. -/
def nthPosition (v : Value) : Except EngineError Nat :=
  match v.asNumeric with
  | .integer i => if i > 0 then pure i.toNat else throw .nthValueArgument
  | _ => throw .nthValueArgument

/-- An aggregate's value over some rows, computed afresh. -/
def freshValue (k : AggregateKind) (coll : Collation) (r : CallRows) (rows : List Nat) :
    Accumulator :=
  rows.foldl (fun acc j =>
    if r.keep[j]?.getD false then (k.step coll (r.args[j]?.getD []) acc).1 else acc) k.start

/-- Steps an aggregate with the rows from `lo` (for `count` rows) that its filter accepts. -/
def stepRows (k : AggregateKind) (coll : Collation) (r : CallRows) (lo count : Nat)
    (acc : Accumulator) : Accumulator :=
  (List.range' lo count).foldl (fun acc j =>
    if r.keep[j]?.getD false then (k.step coll (r.args[j]?.getD []) acc).1 else acc) acc

/-- Takes the rows from `lo` (for `count` rows) that its filter accepts back out of an
aggregate. -/
def unstepRows (k : AggregateKind) (r : CallRows) (lo count : Nat) (acc : Accumulator) :
    Accumulator :=
  (List.range' lo count).foldl (fun acc j =>
    if r.keep[j]?.getD false then k.inverse (r.args[j]?.getD []) acc else acc) acc

/-- The values of an aggregate over moving frames, kept as a sliding window keeps it: rows
`[0, lo)` have been taken back out and rows `[0, hi)` added. For each frame, the rows that
have left it are taken out, the rows that have entered it are added, and rows that entered
and left at once are taken out last. -/
def slidingValues (k : AggregateKind) (coll : Collation) (r : CallRows) :
    Accumulator → Nat → Nat → List (Nat × Int) → List (Except EngineError Value)
  | _, _, _, [] => []
  | acc, lo, hi, (s, e) :: rest =>
    let mid := max lo (min s hi)
    let acc := unstepRows k r lo (mid - lo) acc
    let hi' := max hi (e + 1).toNat
    let acc := stepRows k coll r hi (hi' - hi) acc
    let lo' := max mid (min s hi')
    let acc := unstepRows k r mid (lo' - mid) acc
    k.finish acc :: slidingValues k coll r acc lo' hi' rest

/-- The value of a window aggregate computed afresh: `group_concat` of no text is `NULL`
unless the frame has an exclusion. -/
def windowFinish (k : AggregateKind) (exclusion : Bool) (acc : Accumulator) :
    Except EngineError Value :=
  match k, acc with
  | .groupConcat, .joined (some ps) =>
    if ps.all List.isEmpty then pure (if exclusion then .text [] else .null) else k.finish acc
  | _, _ => k.finish acc

/-- The values of a window call over the rows of one partition, row by row. The outer error
stops the partition before its first row; a row's own error stops it at that row. A frame
that does not start at the partition's first row keeps `min` and `max` candidates in an
ordered index where a later equal value sorts after an earlier one, so among ties the row
that entered the frame last wins there, and the first one everywhere else. -/
def WindowCall.partitionValues (c : WindowCall) (x : Extent) (l : Layout) (r : CallRows) :
    Except EngineError (List (Except EngineError Value)) :=
  let n := l.size
  let rows := List.range n
  let frames := rows.map (l.frame x)
  let excluding := x.exclude != .noOthers
  match WindowKind.of c.fn c.args.length with
  | .rowNumber => pure (rows.map fun i => pure (.integer ((i + 1 : Nat) : Int)))
  | .rank => pure (rows.map fun i => pure (.integer (l.groupStart i + 1)))
  | .denseRank => pure (rows.map fun i => pure (.integer (l.group i + 1)))
  | .percentRank =>
    pure (rows.map fun i => pure (.real (if n ≤ 1 then 0.0
      else Float.ofNat (l.groupStart i) / Float.ofNat (n - 1))))
  | .cumeDist =>
    pure (rows.map fun i => pure (.real (Float.ofNat (l.groupEnd i + 1) / Float.ofNat n)))
  | .ntile =>
    if n == 0 then pure []
    else
      let parts := (r.arg 0 0).toInt
      if parts ≤ 0 then throw .ntileArgument
      else pure (rows.map fun i => pure (.integer (ntileOf parts n i)))
  | .lead => pure (rows.map fun i => pure (r.shifted n i true))
  | .lag => pure (rows.map fun i => pure (r.shifted n i false))
  | .firstValue =>
    pure (rows.map fun i =>
      match (l.frameRows x i).head? with
      | some j => pure (r.arg j 0)
      | none => pure .null)
  | .lastValue =>
    pure (rows.map fun i =>
      match (l.frameRows x i).getLast? with
      | some j => pure (r.arg j 0)
      | none => pure .null)
  | .nthValue =>
    pure (rows.map fun i => do
      let kept := l.frameRows x i
      if excluding && kept.isEmpty then return .null
      let p ← nthPosition (r.arg i 1)
      pure (match kept[p - 1]? with
        | some j => r.arg j 0
        | none => .null))
  | .aggregate k =>
    if x.alwaysEmpty then pure (rows.map fun _ => windowFinish k false k.start)
    else if excluding || k == .min || k == .max || k == .groupConcat then
      let latest := (k == .min || k == .max) && !(x.start matches .unboundedPreceding)
      pure (rows.map fun i =>
        let kept := l.frameRows x i
        windowFinish k excluding (freshValue k c.coll r (if latest then kept.reverse else kept)))
    else pure (slidingValues k c.coll r k.start 0 0 frames)

end Tabula.Sql
