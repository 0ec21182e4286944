import Tabula.Sql.Function

/-!
# Evaluating expressions

An expression is evaluated in a scope: the values of the current row, its row number, the
finished values of the query's aggregates, and the facts of the session.

Comparisons first bring their operands to a common affinity: if either operand is a column
(or a cast) with a numeric affinity, texts that look like numbers become numbers; if one has
text affinity, numbers become texts; otherwise values compare as they are. Texts compare under
the collation named by the first explicit `COLLATE` (left operand first), else `binary`. A
comparison with nothing is nothing, except for `IS` and `IS NOT`.

Arithmetic on two integers stays integral while the result fits 64 bits and becomes a double
otherwise; division or remainder by zero is nothing, and so is a result that is not a number.
`AND`, `OR` and `NOT` follow three-valued logic. In a filter, a value holds when it is a
nonzero number (texts by their leading number); nothing does not hold.

Row values (a parenthesised list, or the row of a subquery of several columns) compare term
by term, left to right, each pair under its own affinity and collation: a comparison is
nothing exactly when the terms that are nothing could make it either true or false. An `IN`
of a row value finds an equal row of its subquery; failing that it is nothing if some row
could still be equal, else false.
-/

namespace Tabula.Sql

open Tabula.Binary

/-- What an expression can see while it is evaluated: the current row and its number, the
values of the query's aggregates and window functions, the facts of the session, and the
scopes of the enclosing queries, innermost first. -/
structure Scope where
  row : List Value
  rowid : Value
  aggregates : List Value
  windows : List Value
  session : Session
  outer : List Scope
  deriving Inhabited

/-- The rows of a query's subqueries: the plan with the given index, run with the given scope
as its innermost enclosing scope. -/
abbrev Queries := Nat → Scope → Except EngineError (List (List Value))

/-- Subqueries for a place that has none. -/
def Queries.none : Queries := fun _ _ => throw (.unsupported "subqueries here")

/-- The affinity of a declared type in a cast; no type at all is numeric. -/
def castAffinity (typeName : String) : Affinity :=
  if typeName.isEmpty then .numeric else Affinity.ofTypeName typeName

/-- The affinity an expression carries into comparisons: that of a column, of a cast's type,
or none. -/
def Expr.affinity : Expr → Option Affinity
  | .column _ a => some a
  | .rowid => some .integer
  | .cast _ t => some (castAffinity t)
  | .collate e _ => e.affinity
  | .queryValue _ head => head.affinity
  | .outer _ e => e.affinity
  | _ => none

mutual

/-- Whether an expression holds an explicit `COLLATE` anywhere. -/
def Expr.hasCollate : Expr → Bool
  | .collate _ _ => true
  | .unary _ e | .cast e _ | .isNull e _ | .truth e _ _ => e.hasCollate
  | .binary _ a b => a.hasCollate || b.hasCollate
  | .call _ _ args => anyCollate args
  | .pattern _ _ s p esc =>
    p.hasCollate || s.hasCollate || match esc with
      | some e => e.hasCollate
      | none => false
  | .between e lo hi _ => e.hasCollate || lo.hasCollate || hi.hasCollate
  | .inList e items _ => e.hasCollate || anyCollate items
  | .queryIn e _ _ _ | .rowIn e _ _ _ | .outer _ e => e.hasCollate
  | .case op bs els =>
    (match op with
      | some e => e.hasCollate
      | none => false) || anyCollateBranches bs || match els with
      | some e => e.hasCollate
      | none => false
  | .vector items => anyCollate items
  | _ => false

/-- Whether any expression of a list holds an explicit `COLLATE`. -/
def anyCollate : List Expr → Bool
  | [] => false
  | e :: rest => e.hasCollate || anyCollate rest

/-- Whether any branch of a `CASE` holds an explicit `COLLATE`. -/
def anyCollateBranches : List (Expr × Expr) → Bool
  | [] => false
  | (w, t) :: rest => w.hasCollate || t.hasCollate || anyCollateBranches rest

end

/-- The first expression of a list that holds an explicit `COLLATE`. -/
def firstWithCollate : List Expr → Option Expr
  | [] => none
  | e :: rest => if e.hasCollate then some e else firstWithCollate rest

mutual

/-- The name of the collation an expression brings to a comparison: `BINARY` for a column,
the nearest explicit `COLLATE` found by descending into the operands that hold one (left
first), or none. -/
def Expr.collationName : Expr → Option String
  | .column _ _ => some "BINARY"
  | .rowid => none
  | .cast e _ => e.collationName
  | .unary .pos e => e.collationName
  | .collate _ c => some c
  | .unary _ e | .isNull e _ | .truth e _ _ => if e.hasCollate then e.collationName else none
  | .binary _ a b =>
    if a.hasCollate then a.collationName else if b.hasCollate then b.collationName else none
  | .call _ _ args => collationNameIn args
  | .pattern _ _ s p esc =>
    if p.hasCollate then p.collationName
    else if s.hasCollate then s.collationName
    else match esc with
      | some e => if e.hasCollate then e.collationName else none
      | none => none
  | .between e lo hi _ =>
    if e.hasCollate then e.collationName
    else if lo.hasCollate then lo.collationName
    else if hi.hasCollate then hi.collationName else none
  | .inList e items _ => if e.hasCollate then e.collationName else collationNameIn items
  | .queryIn e _ _ _ | .rowIn e _ _ _ => if e.hasCollate then e.collationName else none
  | .outer _ e => e.collationName
  | .vector items => collationNameIn items
  | _ => none

/-- The collation name of the first expression of a list that holds an explicit one. -/
def collationNameIn : List Expr → Option String
  | [] => none
  | e :: rest => if e.hasCollate then e.collationName else collationNameIn rest

end

/-- The collation an expression brings to a comparison. A name the engine does not know
stands for `BINARY` here: a query that would compare under it is refused before it runs. -/
def Expr.collation (e : Expr) : Option Collation :=
  e.collationName.map fun n => (Collation.ofName? n).getD .binary

/-- The name of the collation a comparison between two expressions looks up: that of the
first side with an explicit `COLLATE`, else the first side's own, else the second's. -/
def comparisonCollationName (a b : Expr) : Option String :=
  if a.hasCollate then a.collationName
  else if b.hasCollate then b.collationName
  else a.collationName <|> b.collationName

/-- The collation of a comparison between two expressions. -/
def comparisonCollation (a b : Expr) : Collation :=
  let c :=
    if a.hasCollate then a.collation
    else if b.hasCollate then b.collation
    else a.collation <|> b.collation
  c.getD .binary

/-- The affinity a comparison brings its operands to. -/
def comparisonAffinity (a b : Option Affinity) : Option Affinity :=
  match a, b with
  | some x, some y => if x.isNumeric || y.isNumeric then some .numeric else none
  | some x, none => some x
  | none, some y => some y
  | none, none => none

/-- Two operands brought to a comparison affinity: under a numeric affinity texts that are
numbers become numbers, and under text affinity every number becomes its text, on both sides
(so an integer and a double compare as texts). Two integers are compared as they are. -/
def applyComparisonAffinity (aff : Option Affinity) (a b : Value) : Value × Value :=
  if a matches .integer _ && b matches .integer _ then (a, b) else
  match aff with
  | some x =>
    if x.isNumeric then (a.numericForCompare, b.numericForCompare)
    else if x = .text then (a.textForCompare, b.textForCompare)
    else (a, b)
  | none => (a, b)

/-- The truth of a value: nonzero numbers hold, texts by their leading number; nothing is
`ifNull`. -/
def Value.truth (ifNull : Bool) : Value → Bool
  | .null => ifNull
  | .integer i => i != 0
  | .real r => r != 0.0
  | v => v.toReal != 0.0

/-- An integer for a truth: 1 or 0. -/
def boolValue (b : Bool) : Value := .integer (if b then 1 else 0)

/-- Whether an order answers a comparison operator. -/
def BinaryOp.accepts (op : BinaryOp) (o : Ordering) : Bool :=
  match op with
  | .eq | .is => o == .eq
  | .ne | .isNot => o != .eq
  | .lt => o == .lt
  | .le => o != .gt
  | .gt => o == .gt
  | .ge => o != .lt
  | _ => false

/-- Compares two values for a comparison operator, under an affinity and a collation. -/
def compareForOp (op : BinaryOp) (aff : Option Affinity) (coll : Collation) (a b : Value) :
    Value :=
  let nullSafe := op == .is || op == .isNot
  match a, b with
  | .null, .null => if nullSafe then boolValue (op == .is) else .null
  | .null, _ | _, .null => if nullSafe then boolValue (op == .isNot) else .null
  | _, _ =>
    let (a, b) := applyComparisonAffinity aff a b
    boolValue (op.accepts (a.compare coll b))

/-- A double result of arithmetic; not-a-number is nothing. -/
def realArith (r : Float) : Value := if r.isNaN then .null else .real r

/-- The remainder with the sign of the dividend. -/
def truncRem (a b : Int) : Int := a - b * a.tdiv b

/-- Arithmetic on two values. -/
def arithmetic (op : BinaryOp) (a b : Value) : Value :=
  match a, b with
  | .null, _ | _, .null => .null
  | _, _ =>
    match a.toNumber, b.toNumber with
    | .integer x, .integer y => intArith x y
    | _, _ => realArithOf
where
  /-- Both operands as doubles. -/
  realArithOf : Value :=
    let x := a.toReal
    let y := b.toReal
    match op with
    | .add => realArith (x + y)
    | .sub => realArith (x - y)
    | .mul => realArith (x * y)
    | .div => if y == 0.0 then .null else realArith (x / y)
    | _ =>
      let i := a.toInt
      let j := b.toInt
      if j = 0 then .null else
      let j := if j = -1 then 1 else j
      .real (realOfInt (truncRem i j))
  /-- Both operands integers: exact while the result fits 64 bits. -/
  intArith (x y : Int) : Value :=
    let exact : Option Int := match op with
      | .add => some (x + y)
      | .sub => some (x - y)
      | .mul => some (x * y)
      | _ => none
    match exact with
    | some r => if fitsInt64 r then .integer r else realArithOf
    | none =>
      if op == .div then
        if y = 0 then .null
        else if x = minInt64 && y = -1 then realArithOf
        else .integer (x.tdiv y)
      else
        if y = 0 then .null else .integer (truncRem x (if y = -1 then 1 else y))

/-- A 64-bit pattern as a signed integer. -/
def ofBits64 (n : Nat) : Int := if n ≥ Nat.pow 2 63 then (n : Int) - Int.pow 2 64 else n

/-- The bits of a signed 64-bit integer. -/
def toBits64 (i : Int) : Nat := (i % Int.pow 2 64).toNat

/-- Bitwise operators and shifts on the integers of two values. -/
def bitwise (op : BinaryOp) (a b : Value) : Value :=
  match a, b with
  | .null, _ | _, .null => .null
  | _, _ =>
    let x := a.toInt
    let y := b.toInt
    match op with
    | .bitAnd => .integer (ofBits64 (toBits64 x &&& toBits64 y))
    | .bitOr => .integer (ofBits64 (toBits64 x ||| toBits64 y))
    | _ =>
      if y = 0 then .integer x else
      let (left, amount) :=
        if y < 0 then (op != .shiftLeft, if y > -64 then -y else 64)
        else (op == .shiftLeft, y)
      if amount ≥ 64 then .integer (if x ≥ 0 || left then 0 else -1)
      else if left then .integer (ofBits64 ((toBits64 x * Nat.pow 2 amount.toNat) % Nat.pow 2 64))
      else .integer (x / Int.pow 2 amount.toNat)

/-- The concatenation of two values' texts. -/
def concatValues (a b : Value) : Value :=
  match a, b with
  | .null, _ | _, .null => .null
  | .text x, .text y => .text (x ++ y)
  | _, _ => .text ((a.toText?).getD [] ++ (b.toText?).getD [])

/-- The value of an integer literal (negated when `neg`): an integer when it fits, else a
double. -/
def integerLiteral (text : String) (neg : Bool) : Value :=
  match text.toList with
  | '0' :: x :: hex =>
    if x = 'x' || x = 'X' then
      let v := ofBits64 ((hexValueOf hex) % Nat.pow 2 64)
      .integer (if neg then ofBits64 (toBits64 (-v)) else v)
    else decimal
  | _ => decimal
where
  /-- The number that hexadecimal digits spell. -/
  hexValueOf (cs : List Char) : Nat := cs.foldl (fun acc c => acc * 16 + hexValue c) 0
  /-- A decimal literal. -/
  decimal : Value :=
    match readWhole text.toList with
    | (.clean, v) => .integer (if neg then -v else v)
    | (.edge, _) => if neg then .integer minInt64 else .real (readReal text.toList).2
    | _ => let r := (readReal text.toList).2; .real (if neg then -r else r)

/-- Whether a hexadecimal literal has more than sixteen significant digits. -/
def hexTooBig (text : String) : Bool :=
  match text.toList with
  | '0' :: x :: hex => (x = 'x' || x = 'X') && (hex.dropWhile (· = '0')).length > 16
  | _ => false

/-- A value cast to a declared type. -/
def castValue (typeName : String) (v : Value) : Value :=
  match v with
  | .null => .null
  | v =>
    match castAffinity typeName with
    | .blob => .blob ((v.toText?).getD [])
    | .text => .text ((v.toText?).getD [])
    | .integer => .integer v.toInt
    | .real => .real v.toReal
    | .numeric =>
      match v with
      | .integer _ | .real _ => v
      | _ =>
        let cs := (v.chars?).getD []
        let (reading, r) := readReal cs
        let (whole, i) := readWhole cs
        let wholeOk := match whole with
          | .clean | .trailing | .noDigits => true
          | _ => false
        if (reading == .notNumber || reading == .integral) && wholeOk then .integer i
        else
          let j := truncateReal r
          if realSameAsInt r j then .integer j else .real r

/-- The collation a function's arguments bring: that of the first argument that has one. -/
def argumentCollation : List Expr → Collation
  | [] => .binary
  | e :: rest => e.collation.getD (argumentCollation rest)

/-- `x IN` a list of values: true at the first equal value, else nothing if `x` or a value
is nothing, else false. -/
def inValues (aff : Option Affinity) (coll : Collation) (v : Value) (ws : List Value) : Value :=
  if ws.any fun w => compareForOp .eq aff coll v w matches .integer 1 then boolValue true
  else if v matches .null || ws.any (· matches .null) then .null
  else boolValue false

/-- How deep evaluation may descend before it gives up. -/
def evalFuel : Nat := 100000

/-- Whether an operator compares its operands. -/
def BinaryOp.isComparison : BinaryOp → Bool
  | .eq | .ne | .lt | .le | .gt | .ge | .is | .isNot => true
  | _ => false

/-- The strict form of an ordering, which decides a comparison of row values at a pair of
terms before the last. -/
def BinaryOp.strict : BinaryOp → BinaryOp
  | .le => .lt
  | .ge => .gt
  | op => op

/-- Whether an expression stands for a row value: a list of two or more terms, or the row of
a subquery of as many columns. -/
def Expr.isRow : Expr → Bool
  | .vector _ | .queryRow _ _ => true
  | _ => false

/-- A term of a row value: the expression that gives it its affinity and collation, and its
value when it is known already. -/
abbrev RowTerm := Expr × Option Value

/-- The terms of a row value. A subquery's row is computed at once (every term nothing when
it has no row), and each term brings the affinity and collation of its result column; the
terms of a list are left to be computed when a comparison reaches them. -/
def Expr.rowTerms (q : Queries) (s : Scope) : Expr → Except EngineError (List RowTerm)
  | .queryRow i heads => do
    let row := ((← q i s).head?).getD []
    pure (heads.zipIdx.map fun (h, k) => (h, some (row.getD k .null)))
  | .vector items => pure (items.map (·, none))
  | e => pure [(e, none)]

/-- `(x, y, …) IN` the rows of a subquery, once the terms of the row value are known, each with
the result column it meets. Each pair compares under the affinity of the pair. The test holds
when no term is nothing and a row equals the row value term by term, under the collation of
each pair. Failing that, it is nothing when some row could still equal the row value, no term
of it being a value different from the row value's term under that term's own collation;
else it fails. -/
def rowInRows (terms : List ((Expr × Value) × Expr)) (rows : List (List Value)) : Value :=
  let parts := terms.map fun ((e, v), h) =>
    (comparisonAffinity e.affinity h.affinity, comparisonCollation e h,
      e.collation.getD .binary, v)
  let equalRow := fun (r : List Value) =>
    (parts.zip r).all fun ((aff, coll, _, v), w) =>
      compareForOp .eq aff coll v w matches .integer 1
  let differentRow := fun (r : List Value) =>
    (parts.zip r).any fun ((aff, _, own, v), w) =>
      compareForOp .eq aff own v w matches .integer 0
  if !parts.any (fun (_, _, _, v) => v matches .null) && rows.any equalRow then
    boolValue true
  else if rows.all differentRow then boolValue false
  else .null

mutual

/-- The value of an expression in a scope; the fuel bounds the depth of the descent. -/
def Expr.eval : Nat → Queries → Scope → Expr → Except EngineError Value
  | 0, _, _, _ => throw .expressionTooDeep
  | fuel + 1, q, s, e =>
    match e with
    | .null => pure .null
    | .integer t => pure (integerLiteral t false)
    | .real t => pure (.real (readReal t.toList).2)
    | .text t => pure (.ofString t)
    | .blob b => pure (.blob b)
    | .parameter _ => pure .null
    | .name _ _ | .qualified _ _ _ => pure .null
    | .column i _ => pure (s.row.getD i .null)
    | .rowid => pure s.rowid
    | .bool b => pure (boolValue b)
    | .unary .neg (.integer t) => pure (integerLiteral t true)
    | .unary .neg (.real t) => pure (.real (-(readReal t.toList).2))
    | .unary op e => do
      let v ← e.eval fuel q s
      match op, v with
      | _, .null => pure .null
      | .neg, v => pure (arithmetic .sub (.integer 0) v)
      | .pos, v => pure v
      | .not, v => pure (boolValue !(v.truth false))
      | .bitNot, v => pure (.integer (-v.toInt - 1))
    | .binary op a b => do
      if op.isComparison && (a.isRow || b.isRow) then
        let xs ← a.rowTerms q s
        return ← compareRows fuel q s op false xs (← b.rowTerms q s)
      let x ← a.eval fuel q s
      let y ← b.eval fuel q s
      match op with
      | .and =>
        pure (match x, y with
          | .null, .null => .null
          | .null, y => if y.truth false then .null else boolValue false
          | x, .null => if x.truth false then .null else boolValue false
          | x, y => boolValue (x.truth false && y.truth false))
      | .or =>
        pure (match x, y with
          | .null, .null => .null
          | .null, y => if y.truth false then boolValue true else .null
          | x, .null => if x.truth false then boolValue true else .null
          | x, y => boolValue (x.truth false || y.truth false))
      | .eq | .ne | .is | .isNot | .lt | .le | .gt | .ge =>
        pure (compareForOp op (comparisonAffinity a.affinity b.affinity)
          (comparisonCollation a b) x y)
      | .add | .sub | .mul | .div | .rem => pure (arithmetic op x y)
      | .bitAnd | .bitOr | .shiftLeft | .shiftRight => pure (bitwise op x y)
      | .concat => pure (concatValues x y)
      | .extract asValue => do pure (← jsonArrow asValue (.plain x) (.plain y)).value
    | .collate e _ => e.eval fuel q s
    | .cast e t => do pure (castValue t (← e.eval fuel q s))
    | .call f _ args =>
      match lowerName f, args with
      | "coalesce", _ | "ifnull", _ => firstNonNull fuel q s args
      | "iif", [c, a, b] => do if ← c.holds fuel q s then a.eval fuel q s else b.eval fuel q s
      | "likely", a :: _ | "unlikely", a :: _ | "likelihood", a :: _ => a.eval fuel q s
      | name, _ =>
        if isJsonFunction name then do
          pure (← applyJson name (← evalAllTagged fuel q s args)).value
        else do
          let vs ← evalAll fuel q s args
          applyScalar s.session f (argumentCollation args) vs
    | .aggregate i => pure (s.aggregates.getD i .null)
    | .isNull e negated => do
      let v ← e.eval fuel q s
      pure (boolValue ((v matches .null) != negated))
    | .truth e value negated => do
      let v ← e.eval fuel q s
      pure (boolValue ((v.truth !value) != (value != !negated)))
    | .pattern op negated subject pat esc => do
      let p ← pat.eval fuel q s
      let x ← subject.eval fuel q s
      let e ← match esc with
        | some e => some <$> e.eval fuel q s
        | none => pure none
      let r ← match op with
        | .like => patternTest false p x e
        | .glob => patternTest true p x none
      pure (match r with
        | .null => .null
        | v => if negated then boolValue !(v.truth false) else v)
    | .between e lo hi negated => do
      if e.isRow || lo.isRow || hi.isRow then
        let xs ← knownTerms fuel q s (← e.rowTerms q s)
        let low ← compareRows fuel q s .ge false xs (← lo.rowTerms q s)
        let high ← compareRows fuel q s .le false xs (← hi.rowTerms q s)
        let both := match low, high with
          | .null, .null => Value.null
          | .null, y => if y.truth false then .null else boolValue false
          | x, .null => if x.truth false then .null else boolValue false
          | x, y => boolValue (x.truth false && y.truth false)
        return (match both with
          | .null => .null
          | b => if negated then boolValue !(b.truth false) else b)
      let v ← e.eval fuel q s
      let l ← lo.eval fuel q s
      let h ← hi.eval fuel q s
      let low := compareForOp .ge (comparisonAffinity e.affinity lo.affinity)
        (comparisonCollation e lo) v l
      let high := compareForOp .le (comparisonAffinity e.affinity hi.affinity)
        (comparisonCollation e hi) v h
      let both := match low, high with
        | .null, .null => Value.null
        | .null, y => if y.truth false then .null else boolValue false
        | x, .null => if x.truth false then .null else boolValue false
        | x, y => boolValue (x.truth false && y.truth false)
      pure (match both with
        | .null => .null
        | b => if negated then boolValue !(b.truth false) else b)
    | .inList e items negated => do
      if items.isEmpty then return boolValue negated
      let v ← e.eval fuel q s
      let r ← inItems fuel q s e.affinity ((e.collation).getD .binary) v items false
      pure (match r with
        | .null => .null
        | b => if negated then boolValue !(b.truth false) else b)
    | .case operand branches otherwise => do
      match operand with
      | some op => do
        let v ← if op.isRow then pure .null else op.eval fuel q s
        evalBranches fuel q s (some (op, v)) branches otherwise
      | none => evalBranches fuel q s none branches otherwise
    | .vector _ => throw .rowValueMisused
    | .window i => pure (s.windows.getD i .null)
    | .queryValue i _ => do
      let rows ← q i s
      pure ((rows.head?.bind List.head?).getD .null)
    | .queryExists i => do pure (boolValue !(← q i s).isEmpty)
    | .queryIn e i head negated => do
      let rows ← q i s
      let v ← e.eval fuel q s
      if rows.isEmpty then return boolValue negated
      let aff := comparisonAffinity e.affinity head.affinity
      let r := inValues aff (comparisonCollation e head) v (rows.map fun r => r.headD .null)
      pure (match r with
        | .null => .null
        | b => if negated then boolValue !(b.truth false) else b)
    | .rowIn e i heads negated => do
      let rows ← q i s
      let terms ← knownTerms fuel q s (← e.rowTerms q s)
      if rows.isEmpty then return boolValue negated
      let own : List Expr := match e with
        | .queryRow j hs => hs.map (Expr.queryValue j)
        | _ => terms.map fun (t : RowTerm) => t.1
      let values := terms.map fun (t : RowTerm) => t.2.getD .null
      let r := rowInRows ((own.zip values).zip heads) rows
      pure (match r with
        | .null => .null
        | b => if negated then boolValue !(b.truth false) else b)
    | .queryRow _ _ => throw .rowValueMisused
    | .outer depth e =>
      match s.outer[depth - 1]? with
      | some o => e.eval fuel Queries.none o
      | none => pure .null
    | .windowed _ _ _ _ _ | .subquery _ | .exists _ | .inQuery _ _ _ => pure .null
    | .raise => throw (.unsupported "RAISE expressions")

/-- Whether an expression holds, as a filter sees it: nothing does not hold. `AND` and `OR`
stop as soon as the outcome is known. -/
def Expr.holds : Nat → Queries → Scope → Expr → Except EngineError Bool
  | 0, _, _, _ => throw .expressionTooDeep
  | fuel + 1, q, s, e =>
    match e with
    | .binary .and a b => do if ← a.holds fuel q s then b.holds fuel q s else pure false
    | .binary .or a b => do if ← a.holds fuel q s then pure true else b.holds fuel q s
    | e => do pure ((← e.eval fuel q s).truth false)

/-- Compares two row values of one size term by term, left to right, computing each term as
the comparison reaches it. `=` fails at the first pair of different values, and is nothing
when no pair differs but some pair holds nothing (`sawNull`); `<>` is its negation. `IS` fails
at the first pair that is not the same, and `IS NOT` is its negation. An ordering is decided at
the first pair that is not equal: nothing when a term is nothing, else the strict ordering of
the pair; at the last pair the ordering itself decides. Each pair compares under its own
affinity and collation. -/
def compareRows :
    Nat → Queries → Scope → BinaryOp → Bool → List RowTerm → List RowTerm →
    Except EngineError Value
  | 0, _, _, _, _, _, _ => throw .expressionTooDeep
  | fuel + 1, q, s, op, sawNull, (a, va) :: xs, (b, vb) :: ys => do
    let x ← match va with
      | some v => pure v
      | none => a.eval fuel q s
    let y ← match vb with
      | some v => pure v
      | none => b.eval fuel q s
    let aff := comparisonAffinity a.affinity b.affinity
    let coll := comparisonCollation a b
    let last := xs.isEmpty || ys.isEmpty
    match op with
    | .is | .isNot =>
      if compareForOp .is aff coll x y matches .integer 1 then
        if last then pure (boolValue (op == .is)) else compareRows fuel q s op sawNull xs ys
      else pure (boolValue (op == .isNot))
    | .eq | .ne =>
      match compareForOp .eq aff coll x y with
      | .integer 0 => pure (boolValue (op == .ne))
      | r =>
        let sawNull := sawNull || r matches .null
        if !last then compareRows fuel q s op sawNull xs ys
        else if sawNull then pure .null
        else pure (boolValue (op == .eq))
    | op =>
      if last then pure (compareForOp op aff coll x y)
      else match compareForOp .eq aff coll x y with
        | .null => pure .null
        | .integer 1 => compareRows fuel q s op sawNull xs ys
        | _ => pure (compareForOp op.strict aff coll x y)
  | _ + 1, _, _, _, _, _, _ => pure .null

/-- The terms of a row value with every value computed, in order. -/
def knownTerms : Nat → Queries → Scope → List RowTerm → Except EngineError (List RowTerm)
  | 0, _, _, _ => throw .expressionTooDeep
  | _ + 1, _, _, [] => pure []
  | fuel + 1, q, s, (e, v) :: rest => do
    let v ← match v with
      | some v => pure v
      | none => e.eval fuel q s
    pure ((e, some v) :: (← knownTerms fuel q s rest))

/-- The values of a list of expressions. -/
def evalAll : Nat → Queries → Scope → List Expr → Except EngineError (List Value)
  | 0, _, _, _ => throw .expressionTooDeep
  | _ + 1, _, _, [] => pure []
  | fuel + 1, q, s, e :: rest => do
    let v ← e.eval fuel q s
    pure (v :: (← evalAll fuel q s rest))

/-- The value of an expression, with whether it is JSON text that a JSON function (or `->`)
gave, as the JSON functions take their arguments. `COLLATE` and `likely` keep what they
wrap. -/
def Expr.evalTagged : Nat → Queries → Scope → Expr → Except EngineError Tagged
  | 0, _, _, _ => throw .expressionTooDeep
  | fuel + 1, q, s, e =>
    match e with
    | .call f _ args =>
      let name := lowerName f
      if isJsonFunction name then do applyJson name (← evalAllTagged fuel q s args)
      else if name == "likely" || name == "unlikely" || name == "likelihood" then
        match args with
        | a :: _ => a.evalTagged fuel q s
        | [] => pure (.plain .null)
      else do pure (.plain (← e.eval fuel q s))
    | .binary (.extract asValue) a b => do
      jsonArrow asValue (.plain (← a.eval fuel q s)) (.plain (← b.eval fuel q s))
    | .collate a _ => a.evalTagged fuel q s
    | e => do pure (.plain (← e.eval fuel q s))

/-- The tagged values of a list of expressions. -/
def evalAllTagged : Nat → Queries → Scope → List Expr → Except EngineError (List Tagged)
  | 0, _, _, _ => throw .expressionTooDeep
  | _ + 1, _, _, [] => pure []
  | fuel + 1, q, s, e :: rest => do
    let v ← e.evalTagged fuel q s
    pure (v :: (← evalAllTagged fuel q s rest))

/-- The first value of a list that is not nothing. -/
def firstNonNull : Nat → Queries → Scope → List Expr → Except EngineError Value
  | 0, _, _, _ => throw .expressionTooDeep
  | _ + 1, _, _, [] => pure .null
  | fuel + 1, q, s, e :: rest => do
    match ← e.eval fuel q s with
    | .null => firstNonNull fuel q s rest
    | v => pure v

/-- `x IN (…)`: true at the first equal item, else nothing if `x` or an item is nothing,
else false. -/
def inItems :
    Nat → Queries → Scope → Option Affinity → Collation → Value → List Expr → Bool →
    Except EngineError Value
  | 0, _, _, _, _, _, _, _ => throw .expressionTooDeep
  | _ + 1, _, _, _, _, v, [], sawNull =>
    pure (if sawNull || v matches .null then .null else boolValue false)
  | fuel + 1, q, s, aff, coll, v, item :: rest, sawNull => do
    let w ← item.eval fuel q s
    match compareForOp .eq aff coll v w with
    | .integer 1 => pure (boolValue true)
    | _ => inItems fuel q s aff coll v rest (sawNull || w matches .null)

/-- The branches of a `CASE`: the first whose condition holds (or whose value equals the
operand, row for row when the operand is a row value) gives the result, else the `ELSE` value
or nothing. -/
def evalBranches :
    Nat → Queries → Scope → Option (Expr × Value) → List (Expr × Expr) → Option Expr →
    Except EngineError Value
  | 0, _, _, _, _, _ => throw .expressionTooDeep
  | fuel + 1, q, s, _, [], otherwise =>
    match otherwise with
    | some e => e.eval fuel q s
    | none => pure .null
  | fuel + 1, q, s, operand, (w, t) :: rest, otherwise => do
    let hit ← match operand with
      | some (op, v) => do
        if op.isRow then
          let xs ← op.rowTerms q s
          pure ((← compareRows fuel q s .eq false xs (← w.rowTerms q s)).truth false)
        else
          let x ← w.eval fuel q s
          pure ((compareForOp .eq (comparisonAffinity op.affinity w.affinity)
            (comparisonCollation op w) v x).truth false)
      | none => w.holds fuel q s
    if hit then t.eval fuel q s else evalBranches fuel q s operand rest otherwise

end

/-- The value of an expression in a scope. -/
def Expr.evaluate (q : Queries) (s : Scope) (e : Expr) : Except EngineError Value :=
  e.eval evalFuel q s

/-- Whether an expression holds in a scope. -/
def Expr.holdsIn (q : Queries) (s : Scope) (e : Expr) : Except EngineError Bool :=
  e.holds evalFuel q s

/-- The values an aggregate call steps with for a row. The JSON aggregates take their
arguments already written as JSON: an item, or a label (as a string; nothing for `NULL`),
a colon and a value. -/
def aggregateArguments (fn : String) (args : List Expr) (q : Queries) (s : Scope) :
    Except EngineError (List Value) := do
  let written := fun (t : Tagged) => match writeValue t with
    | .ok bs => pure bs
    | .error m => throw (EngineError.functionError m)
  match lowerName fn, args with
  | "json_group_array", [a] => do
    pure [.text (← written (← a.evalTagged evalFuel q s))]
  | "json_group_object", [k, v] => do
    let key := ((← k.evaluate q s).toText?.map Json.quoteBytes).getD []
    pure [.text (key ++ 0x3a :: (← written (← v.evalTagged evalFuel q s)))]
  | _, _ => args.mapM (·.evaluate q s)

end Tabula.Sql
