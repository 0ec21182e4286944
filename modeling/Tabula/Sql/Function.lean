import Tabula.Sql.Error
import Tabula.Sql.Pattern
import Tabula.Sql.DateTime
import Tabula.Sql.Json

/-!
# Built-in functions

Each function name, taken without regard to ASCII case, stands for a scalar function, an
aggregate or a window function, depending on how many arguments it is given: `min(x)` is the
aggregate and `min(x, y)` the scalar. `FunctionRole.of` says which, or that the number of
arguments is wrong, or that there is no such function.

The scalar functions here take their arguments already evaluated. Functions that decide
whether to evaluate an argument at all (`coalesce`, `ifnull`, `iif`, `likely` and the like)
are handled by the evaluator. Text results come from the text form of the arguments
(integers in decimal, doubles with fifteen significant digits); only ASCII letters change
case in `upper` and `lower`.
-/

namespace Tabula.Sql

open Tabula.Binary

/-- A name in small ASCII letters. -/
def lowerName (s : String) : String := String.ofList (s.toList.map asciiLower)

/-- Scalar functions and the numbers of arguments they take. -/
def scalarArities : List (String × (Nat → Bool)) :=
  [("abs", (· == 1)), ("changes", (· == 0)), ("char", fun _ => true),
   ("coalesce", fun n => decide (n ≥ 2)),
   ("glob", (· == 2)), ("hex", (· == 1)), ("ifnull", (· == 2)), ("iif", (· == 3)),
   ("instr", (· == 2)), ("last_insert_rowid", (· == 0)), ("length", (· == 1)),
   ("like", fun n => n = 2 || n = 3), ("likelihood", (· == 2)), ("likely", (· == 1)),
   ("lower", (· == 1)), ("ltrim", fun n => n = 1 || n = 2),
   ("max", fun n => decide (n ≥ 2)), ("min", fun n => decide (n ≥ 2)),
   ("nullif", (· == 2)), ("quote", (· == 1)), ("replace", (· == 3)),
   ("round", fun n => n = 1 || n = 2), ("rtrim", fun n => n = 1 || n = 2), ("sign", (· == 1)),
   ("sqlite_version", (· == 0)), ("sqlite_source_id", (· == 0)),
   ("substr", fun n => n = 2 || n = 3), ("substring", fun n => n = 2 || n = 3),
   ("total_changes", (· == 0)), ("trim", fun n => n = 1 || n = 2), ("typeof", (· == 1)),
   ("unicode", (· == 1)), ("unlikely", (· == 1)), ("upper", (· == 1)), ("zeroblob", (· == 1)),
   ("acos", (· == 1)), ("asin", (· == 1)), ("atan", (· == 1)), ("acosh", (· == 1)),
   ("asinh", (· == 1)), ("atanh", (· == 1)), ("ceil", (· == 1)), ("ceiling", (· == 1)),
   ("cos", (· == 1)), ("cosh", (· == 1)), ("degrees", (· == 1)), ("exp", (· == 1)),
   ("floor", (· == 1)), ("ln", (· == 1)), ("log10", (· == 1)), ("log2", (· == 1)),
   ("radians", (· == 1)), ("sin", (· == 1)), ("sinh", (· == 1)), ("sqrt", (· == 1)),
   ("tan", (· == 1)), ("tanh", (· == 1)), ("trunc", (· == 1)), ("log", fun n => n = 1 || n = 2),
   ("atan2", (· == 2)), ("mod", (· == 2)), ("pow", (· == 2)), ("power", (· == 2)),
   ("pi", (· == 0)),
   ("printf", fun _ => true), ("format", fun _ => true), ("random", (· == 0)),
   ("randomblob", (· == 1)), ("date", fun _ => true), ("time", fun _ => true),
   ("datetime", fun _ => true), ("julianday", fun _ => true), ("unixepoch", fun _ => true),
   ("strftime", fun _ => true), ("current_date", (· == 0)), ("current_time", (· == 0)),
   ("current_timestamp", (· == 0)), ("soundex", (· == 1)),
   ("sqlite_compileoption_used", (· == 1)), ("sqlite_compileoption_get", (· == 1)),
   ("load_extension", fun n => n = 1 || n = 2), ("match", (· == 2))] ++ jsonArities

/-- Aggregate functions and the numbers of arguments they take. -/
def aggregateArities : List (String × (Nat → Bool)) :=
  [("avg", (· == 1)), ("count", fun n => n = 0 || n = 1),
   ("group_concat", fun n => n = 1 || n = 2), ("max", (· == 1)), ("min", (· == 1)),
   ("sum", (· == 1)), ("total", (· == 1)), ("json_group_array", (· == 1)),
   ("json_group_object", (· == 2))]

/-- Window functions and the numbers of arguments they take; they stand only before an
`OVER` clause. -/
def windowArities : List (String × (Nat → Bool)) :=
  [("row_number", (· == 0)), ("rank", (· == 0)), ("dense_rank", (· == 0)),
   ("percent_rank", (· == 0)), ("cume_dist", (· == 0)), ("ntile", (· == 1)),
   ("first_value", (· == 1)), ("last_value", (· == 1)), ("nth_value", (· == 2)),
   ("lead", fun n => 1 ≤ n && n ≤ 3), ("lag", fun n => 1 ≤ n && n ≤ 3)]

/-- What a function name stands for with a number of arguments. -/
inductive FunctionRole where
  | scalar
  | aggregate
  /-- A function that only computes over a window. -/
  | window
  | wrongArity
  | unknown
  deriving Repr, BEq, DecidableEq

/-- The role of a function name called with `n` arguments. -/
def FunctionRole.of (name : String) (n : Nat) : FunctionRole :=
  let key := lowerName name
  let agg := aggregateArities.lookup key
  let win := windowArities.lookup key
  let sc := scalarArities.lookup key
  if (agg.map fun ok => ok n) == some true then .aggregate
  else if (win.map fun ok => ok n) == some true then .window
  else if (sc.map fun ok => ok n) == some true then .scalar
  else if agg.isSome || win.isSome || sc.isSome then .wrongArity
  else .unknown

/-- Whether a name only ever stands for a scalar function, whatever its arguments. -/
def onlyScalar (name : String) : Bool :=
  let key := lowerName name
  (scalarArities.lookup key).isSome && (aggregateArities.lookup key).isNone &&
    (windowArities.lookup key).isNone

/-- Facts about the table that some functions report: how many rows were inserted. -/
structure Session where
  rowsInserted : Nat
  deriving Repr, Inhabited

/-- The bytes of a value's text, or nothing for nothing. -/
def textOf (v : Value) : Option (List UInt8) := v.toText?

/-- Uppercase hexadecimal digits of bytes. -/
def hexText (bs : List UInt8) : String :=
  String.ofList (bs.flatMap fun b =>
    let hi := b.toNat / 16
    let lo := b.toNat % 16
    let digit := fun (d : Nat) => if d < 10 then Char.ofNat (48 + d) else Char.ofNat (55 + d)
    [digit hi, digit lo])

/-- A text up to its first NUL in single quotes, each single quote doubled. -/
def sqlQuoted (bs : List UInt8) : List UInt8 :=
  39 :: (Text.untilNul bs).flatMap (fun b => if b == 39 then [39, 39] else [b]) ++ [39]

/-- The position (from 1) of the first occurrence of `needle` in `hay`, or 0: the search
steps one byte at a time, and over texts (`isText`) also over the continuation bytes after
it, so that positions count characters. An empty needle is found at 1. -/
def instrPosition (isText : Bool) (needle : List UInt8) (hay : List UInt8) (pos : Nat) : Nat :=
  if needle.isPrefixOf hay then pos
  else match hay with
    | [] => 0
    | _ :: rest =>
      if isText then instrPosition isText needle (rest.dropWhile Text.isContinuation) (pos + 1)
      else instrPosition isText needle rest (pos + 1)
termination_by hay.length
decreasing_by
  all_goals simp_wf
  have := (List.dropWhile_sublist (l := rest) Text.isContinuation).length_le; omega

/-- Replaces each occurrence of `pat` (nonempty) in `s` by `rep`, left to right. -/
def replaceAll {α : Type} [BEq α] (pat rep : List α) : List α → List α
  | [] => []
  | c :: rest =>
    if pat.isPrefixOf (c :: rest) && !pat.isEmpty then
      rep ++ replaceAll pat rep ((c :: rest).drop pat.length)
    else c :: replaceAll pat rep rest
termination_by s => s.length
decreasing_by
  all_goals simp_wf
  · have : pat.length ≥ 1 := by
      cases pat with
      | nil => simp_all
      | cons _ _ => simp
    omega

/-- Drops leading characters of `set`, each given by its bytes: while the first of them that
starts the text does, it is cut off. -/
def trimLeft (set : List (List UInt8)) (bs : List UInt8) : List UInt8 :=
  match set.find? (·.isPrefixOf bs) with
  | some g => if _h : g ≠ [] ∧ bs ≠ [] then trimLeft set (bs.drop g.length) else bs
  | none => bs
termination_by bs.length
decreasing_by
  obtain ⟨hg, hb⟩ := _h
  cases g with
  | nil => exact absurd rfl hg
  | cons _ _ =>
    cases bs with
    | nil => exact absurd rfl hb
    | cons _ _ => simp only [List.length_drop, List.length_cons]; omega

/-- Drops trailing characters of `set`, each given by its bytes. -/
def trimRight (set : List (List UInt8)) (bs : List UInt8) : List UInt8 :=
  (trimLeft (set.map List.reverse) bs.reverse).reverse

/-- The 32-bit integer a 64-bit integer becomes when its high half is dropped. -/
def wrap32 (i : Int) : Int :=
  let m := i % Int.pow 2 32
  if m ≥ Int.pow 2 31 then m - Int.pow 2 32 else m

/-- `substr` over a list of characters or bytes, with start `p1` (from 1, negative from the
end) and length `p2` (negative for characters before the start). -/
def substrOf {α : Type} (xs : List α) (p1 : Int) (p2 : Option Int) : List α :=
  let len : Int := xs.length
  let (p2, negP2) := match p2 with
    | some p => if p < 0 then (-p, true) else (p, false)
    | none => (1000000000, false)
  let (p1, p2) :=
    if p1 < 0 then
      let p1 := p1 + len
      if p1 < 0 then (0, max (p2 + p1) 0) else (p1, p2)
    else if p1 > 0 then (p1 - 1, p2)
    else if p2 > 0 then (p1, p2 - 1) else (p1, p2)
  let (p1, p2) :=
    if negP2 then
      let p1' := p1 - p2
      if p1' < 0 then (0, p2 + p1') else (p1', p2)
    else (p1, p2)
  (xs.drop p1.toNat).take p2.toNat

/-- The value of `round(x, n)`: doubles too large to have a fraction stay; with no places, a
half is added away from zero and the value truncated; otherwise the value is written with
`n` decimals as the engine's formatter writes it, and read back. -/
def roundReal (x : Float) (n : Nat) : Float :=
  if x < -4503599627370496.0 || x > 4503599627370496.0 then x
  else if n = 0 then
    let shifted := x + (if x < 0.0 then -0.5 else 0.5)
    realOfInt (truncateReal shifted)
  else
    let text := formatReal { FormatSpec.plain with precision := some n } .fixed false x
    (readReal text).2

/-- The text `quote` gives a double: fifteen significant digits when they read back as the
same double, else twenty decimals in exponent form. -/
def quoteReal (r : Float) : String :=
  let t := realText r
  if (readReal t.toList).2 == r then t
  else String.ofList (formatReal { FormatSpec.plain with precision := some 20, characters := true }
    .exponent false r)

/-- The text `quote` gives a value: `NULL`, a number, a quoted text (up to its first NUL), or
`X'…'`. -/
def quoteValue : Value → List UInt8
  | .null => Text.encode "NULL"
  | .integer i => Text.encode (intText i)
  | .real r => Text.encode (quoteReal r)
  | .text bs => sqlQuoted bs
  | .blob bs => Text.encode ("X'" ++ hexText bs ++ "'")

/-- The characters of a value's text up to its first NUL, each given by its bytes. -/
def glyphsOf (v : Value) : List (List UInt8) :=
  Text.glyphs (Text.untilNul ((textOf v).getD []))

/-- A double result; not-a-number gives nothing. -/
def realResult (r : Float) : Value := if r.isNaN then .null else .real r

/-- A value as a number for the mathematical functions: integers and doubles, and texts
that read as numbers; `none` for everything else. -/
def mathArgument (v : Value) : Option Float :=
  match v with
  | .integer i => some (realOfInt i)
  | .real r => some r
  | .text bs =>
    match numericOfText false bs with
    | .integer i => some (realOfInt i)
    | .real r => some r
    | _ => none
  | _ => none

/-- A mathematical function of one argument. -/
def math1 (f : Float → Float) (args : List Value) : Value :=
  match args with
  | [v] => match mathArgument v with
    | some x => realResult (f x)
    | none => .null
  | _ => .null

/-- A mathematical function of two arguments. -/
def math2 (f : Float → Float → Float) (args : List Value) : Value :=
  match args with
  | [a, b] => match mathArgument a, mathArgument b with
    | some x, some y => realResult (f x y)
    | _, _ => .null
  | _ => .null

/-- `ceil`, `floor` and `trunc`: integers stay, doubles are rounded by `f`. -/
def integralFunction (f : Float → Float) (args : List Value) : Value :=
  match args with
  | [v] =>
    match v.numericForCompare with
    | .integer i => .integer i
    | .real r => realResult (f r)
    | _ => .null
  | _ => .null

/-- The logarithm `log(x)` (base ten) or `log(b, x)`; nothing for arguments out of range. The
natural logarithm of the base is the divisor, and a base whose logarithm is not positive (one
or less) gives nothing. Only the first argument must be a number: the value of `x` in
`log(b, x)` is taken as any value is read as a double, a text by its leading number. -/
def logFunction (args : List Value) : Value :=
  match args with
  | [v] =>
    match mathArgument v with
    | some x => if x > 0.0 then realResult (Float.log10 x) else .null
    | none => .null
  | [base, v] =>
    match mathArgument base with
    | some b =>
      let x := v.toReal
      if b > 0.0 && Float.log b > 0.0 && x > 0.0 then realResult (Float.log x / Float.log b)
      else .null
    | none => .null
  | _ => .null

/-- The `LIKE` or `GLOB` test of a text against a pattern, with an optional escape; a blob on
either side never matches. Pattern and text end at their first NUL. -/
def patternTest (glob : Bool) (pattern subject : Value) (escape : Option Value) :
    Except EngineError Value := do
  if pattern matches .blob _ || subject matches .blob _ then return .integer 0
  if ((textOf pattern).getD []).length > 50000 then throw .patternTooComplex
  let rules := if glob then PatternRules.glob else PatternRules.like
  let (rules, other) ← match escape with
    | none => pure (rules, rules.matchSet)
    | some e =>
      match textOf e with
      | none => return .null
      | some es =>
        match Text.glyphs (Text.untilNul es) with
        | [g] =>
          let c := Text.glyphPoint g
          let rules := { rules with
            matchAll := if rules.matchAll = some c then none else rules.matchAll,
            matchOne := if rules.matchOne = some c then none else rules.matchOne }
          pure (rules, some c)
        | _ => throw .escapeNotSingle
  let some p := textOf pattern | return .null
  let some s := textOf subject | return .null
  let points := fun (bs : List UInt8) => (Text.glyphs (Text.untilNul bs)).map Text.glyphPoint
  let hit := patternMatches rules other (points p) (points s)
  pure (.integer (if hit then 1 else 0))

/-- The value of `random()`. A query's text fixes its answer here, so the engine has no
source of chance: it gives one arbitrary 64-bit integer, which is not zero. -/
def arbitraryInteger : Int := -4017374432458185837

/-- The bytes of `randomblob(n)`: `n` arbitrary bytes from a linear congruential sequence,
not all zero. -/
def arbitraryBytes (n : Nat) : List UInt8 :=
  ((List.range n).foldl (fun (acc : List UInt8 × Nat) _ =>
    let seed := (acc.2 * 1103515245 + 12345) % Nat.pow 2 31
    ((seed / 65536 % 256).toUInt8 :: acc.1, seed)) ([], 20231113)).1.reverse

/-- The version of the engine's language that `sqlite_version()` reports. -/
def engineVersion : String := "3.40.1"

/-- The source identifier that `sqlite_source_id()` reports. -/
def engineSourceId : String :=
  "2022-12-28 14:03:47 df5c253c0b3dd24916e4ec7cf77d3db5294cc9fd45ae7b9c5e82ad8197f38a24"

/-- The options the engine was built with, as `sqlite_compileoption_get` lists them. -/
def buildOptions : List String :=
  ["ATOMIC_INTRINSICS=1", "COMPILER=gcc-12.2.0", "DEFAULT_AUTOVACUUM", "DEFAULT_CACHE_SIZE=-2000",
   "DEFAULT_FILE_FORMAT=4", "DEFAULT_JOURNAL_SIZE_LIMIT=-1", "DEFAULT_MMAP_SIZE=0",
   "DEFAULT_PAGE_SIZE=4096", "DEFAULT_PCACHE_INITSZ=20", "DEFAULT_RECURSIVE_TRIGGERS",
   "DEFAULT_SECTOR_SIZE=4096", "DEFAULT_SYNCHRONOUS=2", "DEFAULT_WAL_AUTOCHECKPOINT=1000",
   "DEFAULT_WAL_SYNCHRONOUS=2", "DEFAULT_WORKER_THREADS=0", "DIRECT_OVERFLOW_READ",
   "ENABLE_COLUMN_METADATA", "ENABLE_DBSTAT_VTAB", "ENABLE_FTS3", "ENABLE_FTS3_PARENTHESIS",
   "ENABLE_FTS3_TOKENIZER", "ENABLE_FTS4", "ENABLE_FTS5", "ENABLE_LOAD_EXTENSION",
   "ENABLE_MATH_FUNCTIONS", "ENABLE_PREUPDATE_HOOK", "ENABLE_RTREE", "ENABLE_SESSION",
   "ENABLE_STMTVTAB", "ENABLE_UNLOCK_NOTIFY", "ENABLE_UPDATE_DELETE_LIMIT", "HAVE_ISNAN",
   "LIKE_DOESNT_MATCH_BLOBS", "MALLOC_SOFT_LIMIT=1024", "MAX_ATTACHED=10", "MAX_COLUMN=2000",
   "MAX_COMPOUND_SELECT=500", "MAX_DEFAULT_PAGE_SIZE=32768", "MAX_EXPR_DEPTH=1000",
   "MAX_FUNCTION_ARG=127", "MAX_LENGTH=1000000000", "MAX_LIKE_PATTERN_LENGTH=50000",
   "MAX_MMAP_SIZE=0x7fff0000", "MAX_PAGE_COUNT=1073741823", "MAX_PAGE_SIZE=65536",
   "MAX_SCHEMA_RETRY=25", "MAX_SQL_LENGTH=1000000000", "MAX_TRIGGER_DEPTH=1000",
   "MAX_VARIABLE_NUMBER=250000", "MAX_VDBE_OP=250000000", "MAX_WORKER_THREADS=8",
   "MUTEX_PTHREADS", "OMIT_LOOKASIDE", "SECURE_DELETE", "SOUNDEX", "SYSTEM_MALLOC",
   "TEMP_STORE=1", "THREADSAFE=1", "USE_URI"]

/-- Whether a character continues a name: a letter, a digit, `_`, `$` or a non-ASCII one. -/
def isNameByte (c : Char) : Bool :=
  c.isAlphanum || c == '_' || c == '$' || c.toNat ≥ 0x80

/-- Whether the engine was built with an option: the name, less a leading `SQLITE_` and with
case ignored, is the whole option or its part before `=`. -/
def optionUsed (name : String) : Bool :=
  let cs := name.toList.map asciiUpper
  let cs := if "SQLITE_".toList.isPrefixOf cs then cs.drop 7 else cs
  buildOptions.any fun opt =>
    let o := opt.toList.map asciiUpper
    cs.isPrefixOf o && !((o.drop cs.length).head?.map isNameByte).getD false

/-- The digit of a letter in a sound code: `0` for vowels, `H`, `W`, `Y` and anything that is
not a letter. Bytes above ASCII count as the ASCII byte of their low seven bits. -/
def soundDigit (b : UInt8) : Nat :=
  let c := asciiUpper (Char.ofNat (b.toNat % 128))
  if "BFPV".contains c then 1
  else if "CGJKQSXZ".contains c then 2
  else if "DT".contains c then 3
  else if c == 'L' then 4
  else if "MN".contains c then 5
  else if c == 'R' then 6
  else 0

/-- The digits of a sound code after its letter: a letter's digit is kept when it differs from
the one before, and a letter with no digit separates equal ones. At most three are taken. -/
def soundDigits (prev : Nat) : List UInt8 → List Char
  | [] => []
  | b :: rest =>
    let d := soundDigit b
    if d == 0 then soundDigits 0 rest
    else if d == prev then soundDigits prev rest
    else Char.ofNat (48 + d) :: soundDigits d rest

/-- The sound code of a text: its first ASCII letter in upper case and three digits, padded
with zeros; `?000` when it has no ASCII letter. The text ends at a first NUL. -/
def soundex (bytes : List UInt8) : String :=
  let bs := bytes.takeWhile (· != 0)
  match bs.dropWhile fun b => !(Char.ofNat b.toNat).isAlpha || b ≥ 128 with
  | [] => "?000"
  | b :: rest =>
    let ds := (soundDigits (soundDigit b) rest).take 3
    String.ofList (asciiUpper (Char.ofNat b.toNat) :: ds ++ List.replicate (3 - ds.length) '0')

/-- Applies a scalar function to evaluated arguments; `coll` is the collation of the first
argument that has one. -/
def applyScalar (session : Session) (name : String) (coll : Collation) (args : List Value) :
    Except EngineError Value :=
  match lowerName name, args with
  | "abs", [v] =>
    match v with
    | .null => pure .null
    | .integer i =>
      if i = minInt64 then throw .integerOverflow else pure (.integer i.natAbs)
    | v => let r := v.toReal; pure (.real (if r < 0.0 then -r else r))
  | "changes", _ => pure (.integer 1)
  | "total_changes", _ => pure (.integer session.rowsInserted)
  | "last_insert_rowid", _ => pure (.integer session.rowsInserted)
  | "char", vs =>
    pure (.text (vs.flatMap fun v =>
      let x := v.toInt
      Text.encodePoint (if x < 0 || x > 0x10ffff then 0xfffd else x.toNat)))
  | "hex", [v] => pure (.ofString (hexText ((textOf v).getD [])))
  | "instr", [h, n] =>
    match h, n with
    | .null, _ | _, .null => pure .null
    | h, n =>
      let isText := !(h matches .blob _ && n matches .blob _)
      pure (.integer (instrPosition isText ((textOf n).getD []) ((textOf h).getD []) 1))
  | "length", [v] =>
    match v with
    | .null => pure .null
    | .blob bs => pure (.integer bs.length)
    | v => pure (.integer (glyphsOf v).length)
  | "lower", [v] => pure ((textOf v).elim .null fun bs => .text (bs.map asciiLowerByte))
  | "upper", [v] => pure ((textOf v).elim .null fun bs => .text (bs.map asciiUpperByte))
  | "ltrim", v :: rest => trim true false v rest
  | "rtrim", v :: rest => trim false true v rest
  | "trim", v :: rest => trim true true v rest
  | "max", vs => pure (pickBest true vs)
  | "min", vs => pure (pickBest false vs)
  | "nullif", [a, b] => pure (if a.compare coll b == .eq then .null else a)
  | "quote", [v] => pure (.text (quoteValue v))
  | "replace", [s, p, r] =>
    match textOf s, textOf p, textOf r with
    | some ss, some ps, rs =>
      if (ps.head?.getD 0) == 0 then pure s
      else pure (rs.elim .null fun rs => .text (replaceAll ps rs ss))
    | _, _, _ => pure .null
  | "round", v :: rest =>
    match rest with
    | [.null] => pure .null
    | _ =>
      let n : Int := match rest with
        | [d] => max 0 (min 30 (wrap32 d.toInt))
        | _ => 0
      match v with
      | .null => pure .null
      | v => pure (.real (roundReal v.toReal n.toNat))
  | "sign", [v] =>
    match v.numericForCompare with
    | .integer i => pure (.integer (if i < 0 then -1 else if i > 0 then 1 else 0))
    | .real r => pure (.integer (if r < 0.0 then -1 else if r > 0.0 then 1 else 0))
    | _ => pure .null
  | "sqlite_version", _ => pure (.ofString engineVersion)
  | "sqlite_source_id", _ => pure (.ofString engineSourceId)
  | "sqlite_compileoption_used", [v] =>
    pure ((textOf v).elim .null fun bs =>
      .integer (if optionUsed (String.ofList (Text.lenientChars (Text.untilNul bs))) then 1 else 0))
  | "sqlite_compileoption_get", [v] =>
    let i := wrap32 v.toInt
    pure (if i < 0 then .null else (buildOptions[i.toNat]?).elim .null .ofString)
  | "soundex", [v] => pure (.ofString (soundex ((textOf v).getD [])))
  | "load_extension", _ => throw .notAuthorized
  | "match", _ => throw (.functionError "unable to use function MATCH in the requested context")
  | "substr", v :: p :: rest => substr v p rest
  | "substring", v :: p :: rest => substr v p rest
  | "typeof", [v] => pure (.ofString v.typeName)
  | "unicode", [v] =>
    match glyphsOf v with
    | g :: _ => pure (.integer (wrap32 (Text.glyphPoint g)))
    | [] => pure .null
  | "zeroblob", [v] =>
    let n := v.toInt
    if n > 1000000000 then throw .tooBig else pure (.blob (List.replicate n.toNat 0))
  | "like", [p, s] => patternTest false p s none
  | "like", [p, s, e] => patternTest false p s (some e)
  | "glob", [p, s] => patternTest true p s none
  | "acos", vs => pure (math1 Float.acos vs)
  | "asin", vs => pure (math1 Float.asin vs)
  | "atan", vs => pure (math1 Float.atan vs)
  | "acosh", vs => pure (math1 Float.acosh vs)
  | "asinh", vs => pure (math1 Float.asinh vs)
  | "atanh", vs => pure (math1 Float.atanh vs)
  | "cos", vs => pure (math1 Float.cos vs)
  | "cosh", vs => pure (math1 Float.cosh vs)
  | "sin", vs => pure (math1 Float.sin vs)
  | "sinh", vs => pure (math1 Float.sinh vs)
  | "tan", vs => pure (math1 Float.tan vs)
  | "tanh", vs => pure (math1 Float.tanh vs)
  | "exp", vs => pure (math1 Float.exp vs)
  | "sqrt", vs => pure (math1 Float.sqrt vs)
  | "degrees", vs => pure (math1 (fun x => x * (180.0 / piValue)) vs)
  | "radians", vs => pure (math1 (fun x => x * (piValue / 180.0)) vs)
  | "ln", vs => pure (match vs.map mathArgument with
      | [some x] => if x > 0.0 then realResult (Float.log x) else .null
      | _ => .null)
  | "log10", vs => pure (match vs.map mathArgument with
      | [some x] => if x > 0.0 then realResult (Float.log10 x) else .null
      | _ => .null)
  | "log2", vs => pure (match vs.map mathArgument with
      | [some x] => if x > 0.0 then realResult (Float.log2 x) else .null
      | _ => .null)
  | "log", vs => pure (logFunction vs)
  | "ceil", vs => pure (integralFunction Float.ceil vs)
  | "ceiling", vs => pure (integralFunction Float.ceil vs)
  | "floor", vs => pure (integralFunction Float.floor vs)
  | "trunc", vs =>
    pure (integralFunction (fun x => if x < 0.0 then Float.ceil x else Float.floor x) vs)
  | "atan2", vs => pure (math2 Float.atan2 vs)
  | "mod", vs => pure (math2 Binary.truncRemainder vs)
  | "pow", vs => pure (math2 Float.pow vs)
  | "power", vs => pure (math2 Float.pow vs)
  | "pi", _ => pure (.real piValue)
  | "printf", f :: rest => pure (printfValue f rest)
  | "format", f :: rest => pure (printfValue f rest)
  | "random", _ => pure (.integer arbitraryInteger)
  | "randomblob", [v] => pure (.blob (arbitraryBytes (max 1 (min v.toInt 1000000)).toNat))
  | "current_date", _ => pure ((dateFunction "date" []).getD .null)
  | "current_time", _ => pure ((dateFunction "time" []).getD .null)
  | "current_timestamp", _ => pure ((dateFunction "datetime" []).getD .null)
  | n, _ => pure ((dateFunction n args).getD .null)
where
  /-- The number pi as a double. -/
  piValue : Float := 3.141592653589793
  /-- `trim` and its one-sided forms. -/
  trim (left right : Bool) (v : Value) (rest : List Value) : Except EngineError Value :=
    match textOf v with
    | none => pure .null
    | some bs =>
      let set := match rest with
        | [c] => (textOf c).map fun cs => Text.glyphs (Text.untilNul cs)
        | _ => some [[32]]
      match set with
      | none => pure .null
      | some set =>
        let bs := if left then trimLeft set bs else bs
        let bs := if right then trimRight set bs else bs
        pure (.text bs)
  /-- The scalar `max` (`isMax`) or `min`: nothing if any argument is nothing; of equal
  values `max` keeps the first and `min` the last. -/
  pickBest (isMax : Bool) (vs : List Value) : Value :=
    match vs with
    | [] => .null
    | first :: rest =>
      if vs.any (fun v => v matches .null) then .null else
      rest.foldl (fun best v =>
        let o := best.compare coll v
        if isMax then (if o == .lt then v else best) else (if o != .lt then v else best)) first
  /-- `substr` of a text (by characters) or a blob (by bytes). -/
  substr (v p : Value) (rest : List Value) : Except EngineError Value :=
    match p, rest with
    | .null, _ | _, [.null] => pure .null
    | _, _ =>
      let p1 := wrap32 p.toInt
      let p2 := rest.head?.map fun d => wrap32 d.toInt
      match v with
      | .null => pure .null
      | .blob bs => pure (.blob (substrOf bs p1 p2))
      | v => pure (.text (substrOf (glyphsOf v) p1 p2).flatten)

end Tabula.Sql
