import Tabula.Sql.Resolve

/-!
# Aggregate functions

An aggregate call keeps an accumulator over the rows of a group: each row steps it with the
values of the call's arguments, and the accumulator is finished once the group ends.

* `count(*)` counts rows and `count(x)` the rows where `x` is not `NULL`.
* `sum`, `total` and `avg` keep a double total and, while every value is an integer, an exact
  integer total too. `sum` gives the integer total when it could, the double total when a
  non-integer was seen, and fails with `integer overflow` when the integer total left 64
  bits. `total` always gives the double total, `avg` the double total over the count; `sum`
  and `avg` of no values are `NULL`, `total` of none is `0.0`.
* `min` and `max` keep the best value seen under the arguments' collation, ignoring `NULL`.
* `group_concat` joins the texts of the non-`NULL` values, with `,` or the separator given.

`min` and `max` also say whether the current row should be the one that the query's plain
columns show: a row that does not improve the best value (a tie included) is passed over.

Over a moving window frame, counts and totals can also take a row back out when it leaves the
frame.
-/

namespace Tabula.Sql

/-- The running totals of `sum`, `total` and `avg`. -/
structure Total where
  real : Float
  whole : Int
  count : Nat
  overflow : Bool
  approximate : Bool
  deriving Inhabited

/-- No values yet. -/
def Total.empty : Total := ⟨0.0, 0, 0, false, false⟩

/-- Adds one value to the totals: integers (and texts that spell one) go into both totals
until the integer total overflows; other numbers only into the double total. -/
def Total.add (t : Total) (v : Value) : Total :=
  match v.numericForCompare with
  | .null => t
  | .integer i =>
    let t := { t with count := t.count + 1, real := t.real + realOfInt i }
    if t.approximate || t.overflow then t
    else if fitsInt64 (t.whole + i) then { t with whole := t.whole + i }
    else { t with approximate := true, overflow := true }
  | w => { t with count := t.count + 1, real := t.real + w.toReal, approximate := true }

/-- Takes one value back out of the totals, as a moving window frame does with a row that
leaves it: an integer leaves the integer total too while the totals are exact; the flags stay
as they are. -/
def Total.sub (t : Total) (v : Value) : Total :=
  match v.numericForCompare with
  | .null => t
  | .integer i =>
    let t := { t with count := t.count - 1, real := t.real - realOfInt i }
    if t.approximate then t else { t with whole := t.whole - i }
  | w => { t with count := t.count - 1, real := t.real - w.toReal }

/-- The aggregate functions. -/
inductive AggregateKind where
  | countRows
  | count
  | sum
  | total
  | avg
  | min
  | max
  | groupConcat
  /-- `json_group_array`, stepped with each item written as JSON. -/
  | jsonArray
  /-- `json_group_object`, stepped with each member written as JSON. -/
  | jsonObject
  deriving Repr, BEq, DecidableEq, Inhabited

/-- The aggregate function a call names. -/
def AggregateKind.of (name : String) (arity : Nat) : AggregateKind :=
  match lowerName name with
  | "count" => if arity == 0 then .countRows else .count
  | "sum" => .sum
  | "total" => .total
  | "avg" => .avg
  | "min" => .min
  | "max" => .max
  | "json_group_array" => .jsonArray
  | "json_group_object" => .jsonObject
  | _ => .groupConcat

/-- The state of one aggregate call over the rows of a group so far. -/
inductive Accumulator where
  | count (n : Nat)
  | totals (t : Total)
  | best (v : Option Value)
  /-- The pieces of the text joined so far, last piece first, so that each step only adds a
  piece in front; none before the first value. -/
  | joined (pieces : Option (List (List UInt8)))
  deriving Inhabited

/-- The text that joined pieces, kept last piece first, stand for. -/
def joinedText (pieces : List (List UInt8)) : List UInt8 := pieces.reverse.flatten

/-- The state of an aggregate before any row. -/
def AggregateKind.start : AggregateKind → Accumulator
  | .countRows | .count => .count 0
  | .sum | .total | .avg => .totals Total.empty
  | .min | .max => .best none
  | .groupConcat | .jsonArray | .jsonObject => .joined none

/-- Whether the kind keeps a best value, and so decides which row plain columns show. -/
def AggregateKind.picksRow : AggregateKind → Bool
  | .min | .max => true
  | _ => false

/-- Steps an accumulator with one row's argument values; the flag is true when the row is
passed over for the plain columns. -/
def AggregateKind.step (k : AggregateKind) (coll : Collation) (args : List Value) :
    Accumulator → Accumulator × Bool
  | .count n =>
    match k, args with
    | .countRows, _ => (.count (n + 1), false)
    | _, .null :: _ => (.count n, false)
    | _, _ => (.count (n + 1), false)
  | .totals t => (.totals (t.add (args.headD .null)), false)
  | .best none =>
    match args.headD .null with
    | .null => (.best none, false)
    | v => (.best (some v), false)
  | .best (some b) =>
    match args.headD .null with
    | .null => (.best (some b), true)
    | v =>
      let o := b.compare coll v
      if (k == .max && o == .lt) || (k == .min && o == .gt) then (.best (some v), false)
      else (.best (some b), true)
  | .joined acc =>
    match args with
    | [] | .null :: _ => (.joined acc, false)
    | v :: rest =>
      let text := (v.toText?).getD []
      match acc with
      | none => (.joined (some [text]), false)
      | some ps =>
        let sep := match rest with
          | [] => [44]
          | w :: _ => (w.toText?).getD []
        (.joined (some (text :: sep :: ps)), false)

/-- Takes a row's argument values back out of an accumulator, as a moving window frame does
with a row that leaves it. Only counts and totals can be taken back; other accumulators are
computed afresh for each frame and stay as they are. -/
def AggregateKind.inverse (k : AggregateKind) (args : List Value) : Accumulator → Accumulator
  | .count n =>
    match k, args with
    | .countRows, _ => .count (n - 1)
    | _, .null :: _ => .count n
    | _, _ => .count (n - 1)
  | .totals t => .totals (t.sub (args.headD .null))
  | acc => acc

/-- A double result: `NaN` has no value. -/
def realOrNull (r : Float) : Value := if r.isNaN then .null else .real r

/-- The value of a finished accumulator. -/
def AggregateKind.finish (k : AggregateKind) : Accumulator → Except EngineError Value
  | .count n => pure (.integer n)
  | .totals t =>
    match k with
    | .total => pure (realOrNull t.real)
    | .avg => pure (if t.count == 0 then .null else realOrNull (t.real / Float.ofNat t.count))
    | _ =>
      if t.count == 0 then pure .null
      else if t.overflow then throw .integerOverflow
      else if t.approximate then pure (realOrNull t.real)
      else pure (.integer t.whole)
  | .best v => pure (v.getD .null)
  | .joined s => pure (match k, s.map joinedText with
    | .jsonArray, s => .text (0x5b :: s.getD [] ++ [0x5d])
    | .jsonObject, s => .text (0x7b :: s.getD [] ++ [0x7d])
    | _, some t => .text t
    | _, none => .null)

/-- An aggregate call at work over a group: its kind, its collation, whether it takes each
distinct value once, the values it has taken, and its accumulator. -/
structure Running where
  kind : AggregateKind
  coll : Collation
  distinct : Bool
  seen : List Value
  acc : Accumulator
  deriving Inhabited

/-- An aggregate call before the first row of a group. -/
def AggregateCall.begin (c : AggregateCall) : Running :=
  let k := AggregateKind.of c.fn c.args.length
  ⟨k, c.coll, c.distinct, [], k.start⟩

/-- Steps a running aggregate with one row's argument values. The result says whether it
stepped at all (a repeated value of a distinct aggregate is not taken), and whether the row
is passed over for the plain columns. -/
def Running.step (r : Running) (args : List Value) : Running × Option Bool :=
  let v := args.headD .null
  if r.distinct && r.seen.any (fun w => w.same r.coll v) then (r, none)
  else
    let r := if r.distinct then { r with seen := r.seen ++ [v] } else r
    let (acc, skip) := r.kind.step r.coll args r.acc
    ({ r with acc }, some skip)

end Tabula.Sql
