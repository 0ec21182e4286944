import Tabula.Sql.Value
import Tabula.Binary.Float
import Tabula.Decimal.Peel

/-!
# Numbers in texts, and the classes a value converts to

The engine reads a number out of a text in two ways. `readReal` takes an optional sign, up to
about nineteen significant digits, an optional fraction and an optional exponent, with ASCII
blanks around them, and computes the double the way the engine does: the significand times
or over a power of ten in 80-bit extended arithmetic, then stored as a double. It reports
whether the whole text was such a number, and whether it had a point or an exponent.
`readWhole` reads a signed run of decimal digits into a 64-bit integer, clamping on overflow,
and reports whether anything but blanks followed.

On these rest the conversions of values: to a double, to an integer (doubles saturate at the
64-bit bounds and truncate toward zero), to text (integers in decimal, doubles with fifteen
significant digits), and the numeric affinity that turns a text that looks like a number into
an integer or a double.
-/

namespace Tabula.Sql

open Tabula.Binary

/-- The blanks that may surround a number: space, tab, line feed, vertical tab, form feed and
carriage return. -/
def isSpace (c : Char) : Bool :=
  c = ' ' || c = '\t' || c = '\n' || c = '\x0b' || c = '\x0c' || c = '\r'

/-- Whether a character is an ASCII decimal digit. -/
def isDigit (c : Char) : Bool := '0' ≤ c && c ≤ '9'

/-- The value of an ASCII digit. -/
def digitOf (c : Char) : Nat := c.toNat - '0'.toNat

/-- How much of a text `readReal` found to be a number. -/
inductive Reading where
  /-- No number, or one followed by other text without a point or an exponent. -/
  | notNumber
  /-- A number with a point or an exponent, followed by other text. -/
  | realPrefix
  /-- A whole text of digits, with an optional sign and surrounding blanks. -/
  | integral
  /-- A whole text that is a number with a point or an exponent. -/
  | real
  deriving Repr, BEq, DecidableEq

/-- Whether a reading covers the whole text. -/
def Reading.isWhole : Reading → Bool
  | .integral | .real => true
  | _ => false

/-- Significands stop taking digits once they reach this bound. -/
def significandBound : Nat := (Nat.pow 2 63 - 1 - 9) / 10

/-- The parts of a decimal number as the scanner collects them. -/
structure Scan where
  neg : Bool := false
  /-- The significant digits read so far, as a number. -/
  sig : Nat := 0
  /-- The decimal shift of the significand: digits dropped before the point count up,
  digits kept after it count down. -/
  shift : Int := 0
  /-- How many digits went into the significand. -/
  digits : Nat := 0
  /-- 1 for a whole number, 2 with a point or an exponent, 3 with both. -/
  kind : Nat := 1
  expNeg : Bool := false
  /-- The exponent's digits as a number, capped at 10000. -/
  exp : Nat := 0
  expValid : Bool := true

/-- Skips digits, counting them. -/
def skipDigits : List Char → Nat → Nat × List Char
  | c :: rest, n => if isDigit c then skipDigits rest (n + 1) else (n, c :: rest)
  | [], n => (n, [])

/-- Reads the digits before the point; once the significand reaches its bound, the remaining
digits only shift it. -/
def scanWhole (s : Scan) : List Char → Scan × List Char
  | c :: rest =>
    if isDigit c then
      let sig := s.sig * 10 + digitOf c
      let s := { s with sig, digits := s.digits + 1 }
      if sig ≥ significandBound then
        let (n, rest) := skipDigits rest 0
        ({ s with shift := s.shift + n }, rest)
      else scanWhole s rest
    else (s, c :: rest)
  | [] => (s, [])

/-- Reads the digits after the point while the significand is below its bound. -/
def scanFraction (s : Scan) : List Char → Scan × List Char
  | c :: rest =>
    if isDigit c then
      if s.sig < significandBound then
        scanFraction { s with sig := s.sig * 10 + digitOf c, shift := s.shift - 1,
                              digits := s.digits + 1 } rest
      else scanFraction s rest
    else (s, c :: rest)
  | [] => (s, [])

/-- Reads the digits of an exponent. -/
def scanExponent (s : Scan) : List Char → Scan × List Char
  | c :: rest =>
    if isDigit c then
      scanExponent { s with exp := if s.exp < 10000 then s.exp * 10 + digitOf c else 10000,
                            expValid := true } rest
    else (s, c :: rest)
  | [] => (s, [])

/-- Scans a number; the rest is what is left after it (and after trailing blanks, unless the
text ended early). -/
def scanNumber (cs : List Char) : Scan × List Char :=
  let cs := cs.dropWhile isSpace
  let (neg, cs) := match cs with
    | '-' :: rest => (true, rest)
    | '+' :: rest => (false, rest)
    | _ => (false, cs)
  let (s, cs) := scanWhole { neg } cs
  if cs.isEmpty then (s, cs) else
  let (s, cs) := match cs with
    | '.' :: rest => scanFraction { s with kind := s.kind + 1 } rest
    | _ => (s, cs)
  if cs.isEmpty then (s, cs) else
  match cs with
  | e :: rest =>
    if e = 'e' || e = 'E' then
      let s := { s with expValid := false, kind := s.kind + 1 }
      if rest.isEmpty then (s, rest) else
      let (expNeg, rest) := match rest with
        | '-' :: r => (true, r)
        | '+' :: r => (false, r)
        | _ => (false, rest)
      let (s, rest) := scanExponent { s with expNeg } rest
      (s, rest.dropWhile isSpace)
    else (s, cs.dropWhile isSpace)
  | [] => (s, [])

/-- Ten to the power `e` as the engine computes it in extended arithmetic: by repeated
squaring, each product rounded to the extended format. -/
def powerOfTen (e : Nat) : Exact :=
  go 64 e (Exact.ofNat 10) (Exact.ofNat 1)
where
  /-- Multiplies `r` by `x` to the power `e`, squaring `x` for each bit of `e`. -/
  go : Nat → Nat → Exact → Exact → Exact
    | 0, _, _, r => r
    | fuel + 1, e, x, r =>
      let r := if e % 2 = 1 then Exact.mul Format.extended r x else r
      if e / 2 = 0 then r else go fuel (e / 2) (Exact.mul Format.extended x x) r

/-- Reduces the decimal exponent while the significand can take or give a factor ten. -/
def reduceExponent (up : Bool) : Nat → Nat → Nat × Nat
  | 0, s => (s, 0)
  | e + 1, s =>
    if up then
      if s ≥ (Nat.pow 2 63 - 1) / 10 then (s, e + 1) else reduceExponent up e (s * 10)
    else
      if s % 10 ≠ 0 then (s, e + 1) else reduceExponent up e (s / 10)

/-- The double of a scanned number, computed as the engine computes it: the significand
times or over a power of ten in extended arithmetic, then stored as a double. Past 307
places the power is ten to the places beyond 308, and the double is then multiplied or
divided by `1e308` in double arithmetic. -/
def Scan.value (s : Scan) : Float :=
  let e : Int := (if s.expNeg then -(s.exp : Int) else s.exp) + s.shift
  let up := decide (0 ≤ e)
  if s.sig = 0 then (if s.neg then -0.0 else 0.0) else
  let (sig, e) := reduceExponent up e.natAbs s.sig
  let sv := Exact.ofNat sig
  let apply := fun (scale : Exact) =>
    if up then Exact.mul Format.extended sv scale else Exact.div Format.extended sv scale
  if e = 0 then ofRatio s.neg sig 1 else
  if e > 307 then
    if e < 342 then
      let first := Exact.round Format.double (apply (powerOfTen (e - 308)))
      let big := Exact.ofDouble 1.0e308
      (if up then Exact.mul Format.double first big
        else Exact.div Format.double first big).toDouble s.neg
    else if up then infinity s.neg else (if s.neg then -0.0 else 0.0)
  else (apply (powerOfTen e)).toDouble s.neg

/-- Reads a number out of a text: how much of it is a number, and its double. -/
def readReal (cs : List Char) : Reading × Float :=
  if (cs.dropWhile isSpace).isEmpty then (.notNumber, 0.0) else
  let (s, rest) := scanNumber cs
  let reading :=
    if rest.isEmpty && s.digits > 0 && s.expValid then
      (if s.kind = 1 then Reading.integral else .real)
    else if s.kind ≥ 2 && (s.kind = 3 || s.expValid) && s.digits > 0 then .realPrefix
    else .notNumber
  (reading, s.value)

/-- How a text reads as a 64-bit integer. -/
inductive WholeReading where
  /-- Digits that fit, with blanks around them at most. -/
  | clean
  /-- Digits followed by other text. -/
  | trailing
  /-- No digits at all. -/
  | noDigits
  /-- Digits beyond the 64-bit range. -/
  | overflow
  /-- Exactly `2 ^ 63` without a minus sign. -/
  | edge
  deriving Repr, BEq, DecidableEq

/-- The digits of a text as a 64-bit integer, clamped to the nearest bound on overflow, and how
the text reads. -/
def readWhole (cs : List Char) : WholeReading × Int :=
  let cs := cs.dropWhile isSpace
  let (neg, cs) := match cs with
    | '-' :: rest => (true, rest)
    | '+' :: rest => (false, rest)
    | _ => (false, cs)
  let afterZeros := cs.dropWhile (· = '0')
  let ds := afterZeros.takeWhile isDigit
  let rest := afterZeros.dropWhile isDigit
  let u := ds.foldl (fun acc c => acc * 10 + digitOf c) 0
  let rc : WholeReading :=
    if ds.isEmpty && afterZeros.length = cs.length then .noDigits
    else if rest.all isSpace then .clean else .trailing
  let signed : Int := if neg then -(u : Int) else u
  if ds.length < 19 then (rc, signed)
  else
    let bound := if neg then minInt64 else maxInt64
    if u < Nat.pow 2 63 && ds.length = 19 then (rc, signed)
    else if u = Nat.pow 2 63 && ds.length = 19 then (if neg then (rc, bound) else (.edge, bound))
    else (.overflow, bound)

/-- The integer part of a double, saturated at the 64-bit bounds; not-a-number gives the least
integer. -/
def truncateReal (x : Float) : Int :=
  match decode x with
  | .nan => minInt64
  | .signed neg .infinite => if neg then minInt64 else maxInt64
  | .signed neg (.finite m e) =>
    let whole : Nat := if 0 ≤ e then m * Nat.pow 2 e.toNat else m / Nat.pow 2 (-e).toNat
    let i : Int := if neg then -(whole : Int) else whole
    if i ≤ minInt64 then minInt64 else if i ≥ Int.pow 2 63 then maxInt64 else i

/-- The double nearest to an integer. -/
def realOfInt (i : Int) : Float := ofInt i

/-- Whether a double and an integer are the same number in a way that survives storage: zero,
or the same bits for an integer of magnitude below `2 ^ 51`. -/
def realSameAsInt (r : Float) (i : Int) : Bool :=
  r == 0.0 || ((r.toBits == (realOfInt i).toBits) && -(Int.pow 2 51) ≤ i && i < Int.pow 2 51)

/-- The integer a double becomes when it holds an integer strictly inside the 64-bit range. -/
def integralReal? (r : Float) : Option Int :=
  let i := truncateReal r
  if r == realOfInt i && minInt64 < i && i < maxInt64 then some i else none

/-- The characters of a text or a blob that conversions read, as the engine steps through
its bytes. -/
def Value.chars? : Value → Option (List Char)
  | .text bs | .blob bs => some (Text.lenientChars bs)
  | _ => none

/-- A text that looks like a number becomes one: an integer if it is written as one and fits,
else a double; with `tryInteger`, a double that holds an integer becomes that integer. Other
texts stay as they are. -/
def numericOfText (tryInteger : Bool) (bs : List UInt8) : Value :=
  let cs := Text.lenientChars bs
  let (reading, r) := readReal cs
  if !reading.isWhole then .text bs else
  let asInteger : Option Int :=
    if reading = .integral then
      let i := truncateReal r
      if realSameAsInt r i then some i
      else match readWhole cs with
        | (.clean, v) => some v
        | _ => none
    else none
  match asInteger with
  | some i => .integer i
  | none =>
    if tryInteger then
      match integralReal? r with
      | some i => .integer i
      | none => .real r
    else .real r

/-- The number a value stands for in arithmetic: numbers are themselves; a text or a blob is
the integer it spells if it is one (or a run of digits followed by other text), else the
double its leading part spells. -/
def Value.toNumber : Value → Value
  | .null => .null
  | .integer i => .integer i
  | .real r => .real r
  | v =>
    let cs := (v.chars?).getD []
    let (reading, r) := readReal cs
    let (whole, i) := readWhole cs
    match reading, whole with
    | .notNumber, .clean | .notNumber, .trailing | .notNumber, .noDigits => .integer i
    | .integral, .clean => .integer i
    | _, _ => .real r

/-- The double a value stands for: nothing is zero, a text its leading number. -/
def Value.toReal : Value → Float
  | .null => 0.0
  | .integer i => realOfInt i
  | .real r => r
  | v => (readReal ((v.chars?).getD [])).2

/-- The integer a value stands for: nothing is zero, a double is truncated and saturated, a
text its leading digits. -/
def Value.toInt : Value → Int
  | .null => 0
  | .integer i => i
  | .real r => truncateReal r
  | v => (readWhole ((v.chars?).getD [])).2

/-- Doubles written as text: fifteen significant digits, as the engine's formatter gives
them. -/
def realText (r : Float) : String := Decimal.realText r

/-- The decimal text of an integer. -/
def intText (i : Int) : String :=
  if i < 0 then "-" ++ toString i.natAbs else toString i.natAbs

/-- The bytes of the text a value stands for (a blob's bytes unchanged); nothing has none. -/
def Value.toText? : Value → Option (List UInt8)
  | .null => none
  | .integer i => some (Text.encode (intText i))
  | .real r => some (Text.encode (realText r))
  | .text bs | .blob bs => some bs

/-- A value as a numeric column stores it: numeric texts become numbers and doubles that hold
an integer become that integer. -/
def Value.asNumeric : Value → Value
  | .real r =>
    match integralReal? r with
    | some i => .integer i
    | none => .real r
  | .text bs => numericOfText true bs
  | v => v

/-- A value under an affinity, as a column of that affinity stores and gives it back: numeric
columns turn numeric texts into numbers and integral doubles into integers, real columns give
doubles, text columns give texts. -/
def Value.withAffinity (aff : Affinity) (v : Value) : Value :=
  match aff, v with
  | .blob, v => v
  | .text, .integer i => .ofString (intText i)
  | .text, .real r => .ofString (realText r)
  | .text, v => v
  | .real, v =>
    match v.asNumeric with
    | .integer i => .real (realOfInt i)
    | w => w
  | _, v => v.asNumeric

/-- The value a comparison sees under numeric affinity: texts that are numbers become numbers;
nothing else changes. -/
def Value.numericForCompare : Value → Value
  | .text bs => numericOfText false bs
  | v => v

/-- The value a comparison sees under text affinity: numbers become their text. -/
def Value.textForCompare : Value → Value
  | .integer i => .ofString (intText i)
  | .real r => .ofString (realText r)
  | v => v

example : (readReal "1e5".toList).1 = .real ∧ (readReal " 12 ".toList).1 = .integral ∧
    (readReal "1.5x".toList).1 = .realPrefix ∧ (readReal "12x".toList).1 = .notNumber := by
  decide

end Tabula.Sql
