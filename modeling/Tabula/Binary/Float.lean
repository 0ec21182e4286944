/-!
# Binary floating-point values

A binary floating-point format keeps a significand of a fixed number of bits and a power of
two. This module rounds an exact positive ratio to the nearest value of such a format (a tie
goes to the even significand), and takes a double apart into sign, significand and exponent
and back. The rounding is parametrised by the format: the same function serves the 64-bit
double and the 80-bit extended format that some arithmetic runs in before it stores a double.
`Exact` values carry out that arithmetic one rounded operation at a time.
-/

namespace Tabula.Binary

/-- A binary format: significands have `precision` bits, `minExp` is the exponent of the
least positive value, and the largest finite value is `(2 ^ precision - 1) * 2 ^ maxExp`. -/
structure Format where
  precision : Nat
  minExp : Int
  maxExp : Int

/-- The 64-bit double: 53 significand bits, least value `2 ^ -1074`. -/
def Format.double : Format := ⟨53, -1074, 971⟩

/-- The 80-bit extended format: 64 significand bits, least value `2 ^ -16445`. -/
def Format.extended : Format := ⟨64, -16445, 16320⟩

/-- A nonnegative value of a format: `mant * 2 ^ exp`, or infinity. -/
inductive Magnitude where
  | finite (mant : Nat) (exp : Int)
  | infinite
  deriving Repr, BEq, DecidableEq, Inhabited

/-- `2 ^ e` as an exact ratio. -/
def pow2Ratio (e : Int) : Nat × Nat :=
  if 0 ≤ e then (Nat.pow 2 e.toNat, 1) else (1, Nat.pow 2 (-e).toNat)

/-- The exact ratio `num / den` of a finite magnitude. -/
def Magnitude.ratio : Magnitude → Nat × Nat
  | .finite m e => let (n, d) := pow2Ratio e; (m * n, d)
  | .infinite => (1, 0)

/-- `⌊log₂ (num / den)⌋` for positive `num` and `den`. -/
def floorLog2 (num den : Nat) : Int :=
  let a := num.log2
  let b := den.log2
  if num * Nat.pow 2 b ≥ den * Nat.pow 2 a then (a : Int) - b else (a : Int) - b - 1

/-- `num / den` rounded to the nearest natural number, a tie going to the even one. -/
def divRoundEven (num den : Nat) : Nat :=
  let q := num / den
  let r := num % den
  if 2 * r < den then q else if 2 * r > den then q + 1 else if q % 2 = 0 then q else q + 1

/-- The ratio `num / (den * 2 ^ e)` as a pair of naturals. -/
def scaleDownPow2 (num den : Nat) (e : Int) : Nat × Nat :=
  if 0 ≤ e then (num, den * Nat.pow 2 e.toNat) else (num * Nat.pow 2 (-e).toNat, den)

/-- The value of the format nearest to `num / den` (ties to the even significand); values
beyond the largest finite one become infinity. -/
def Format.round (F : Format) (num den : Nat) : Magnitude :=
  if num = 0 || den = 0 then .finite 0 F.minExp else
  let e0 := max (floorLog2 num den - ((F.precision - 1 : Nat) : Int)) F.minExp
  let (n, d) := scaleDownPow2 num den e0
  let m := divRoundEven n d
  let (m, e) := if m = Nat.pow 2 F.precision then (Nat.pow 2 (F.precision - 1), e0 + 1) else (m, e0)
  if e > F.maxExp then .infinite else .finite m e

/-- A double taken apart: not a number, or a sign and a magnitude. -/
inductive Parts where
  | nan
  | signed (neg : Bool) (mag : Magnitude)
  deriving Repr, BEq, Inhabited

/-- The sign, significand and exponent stored in a double. -/
def decode (x : Float) : Parts :=
  let bits : Nat := x.toBits.toNat
  let neg := decide (bits ≥ Nat.pow 2 63)
  let biased : Nat := (bits / Nat.pow 2 52) % Nat.pow 2 11
  let frac : Nat := bits % Nat.pow 2 52
  if biased = 2047 then (if frac = 0 then .signed neg .infinite else .nan)
  else if biased = 0 then .signed neg (.finite frac (-1074))
  else .signed neg (.finite (frac + Nat.pow 2 52) ((biased : Int) - 1075))

/-- The double with a sign and a magnitude of the double format (a significand below `2 ^ 52`
belongs to the least exponent). -/
def encode (neg : Bool) (mag : Magnitude) : Float :=
  let sign := if neg then Nat.pow 2 63 else 0
  match mag with
  | .infinite => Float.ofBits (sign + 2047 * Nat.pow 2 52).toUInt64
  | .finite m e =>
    if m < Nat.pow 2 52 then Float.ofBits (sign + m).toUInt64
    else Float.ofBits (sign + (e + 1075).toNat * Nat.pow 2 52 + (m - Nat.pow 2 52)).toUInt64

/-- The double nearest to `±num / den`. -/
def ofRatio (neg : Bool) (num den : Nat) : Float :=
  encode neg (Format.double.round num den)

/-- The double nearest to an integer. -/
def ofInt (i : Int) : Float := ofRatio (decide (i < 0)) i.natAbs 1

/-- Not a number, as a double. -/
def nan : Float := Float.ofBits 0x7ff8000000000000

/-- Positive or negative infinity, as a double. -/
def infinity (neg : Bool) : Float := encode neg .infinite

/-- A non-negative value held exactly: the ratio `num / den`, infinity when `den = 0`.
Arithmetic in a format computes the exact result and rounds it to the format, as a machine
does one operation at a time. -/
structure Exact where
  num : Nat
  den : Nat
  deriving Inhabited

namespace Exact

/-- The exact value of a magnitude; zero is `0 / 1`. -/
def ofMagnitude (m : Magnitude) : Exact :=
  let (n, d) := m.ratio
  if n = 0 && d ≠ 0 then ⟨0, 1⟩ else ⟨n, d⟩

/-- A natural number. -/
def ofNat (n : Nat) : Exact := ⟨n, 1⟩

/-- The magnitude of a double (not a number counts as zero). -/
def ofDouble (x : Float) : Exact :=
  match decode x with
  | .signed _ mag => ofMagnitude mag
  | .nan => ⟨0, 1⟩

/-- The value rounded to a format; infinity stays. -/
def round (F : Format) (x : Exact) : Exact :=
  if x.den = 0 then x else ofMagnitude (F.round x.num x.den)

/-- The product, rounded to a format. -/
def mul (F : Format) (a b : Exact) : Exact := round F ⟨a.num * b.num, a.den * b.den⟩

/-- The quotient, rounded to a format. -/
def div (F : Format) (a b : Exact) : Exact := round F ⟨a.num * b.den, a.den * b.num⟩

/-- The sum, rounded to a format. -/
def add (F : Format) (a b : Exact) : Exact :=
  round F ⟨a.num * b.den + b.num * a.den, a.den * b.den⟩

/-- The difference of `a` and a smaller `b`, rounded to a format. -/
def sub (F : Format) (a b : Exact) : Exact :=
  round F ⟨a.num * b.den - b.num * a.den, a.den * b.den⟩

/-- Whether `a` is at most `b`. -/
def le (a b : Exact) : Bool := a.num * b.den ≤ b.num * a.den

/-- Whether `a` is below `b`. -/
def lt (a b : Exact) : Bool := !b.le a

/-- Whether the value is zero. -/
def isZero (a : Exact) : Bool := a.num = 0 && a.den ≠ 0

/-- The integer part of a finite value. -/
def floor (a : Exact) : Nat := a.num / a.den

/-- The nearest double, with a sign. -/
def toDouble (neg : Bool) (a : Exact) : Float :=
  if a.den = 0 then infinity neg else ofRatio neg a.num a.den

end Exact

/-- The remainder of `x` by `y` when the quotient is truncated toward zero, `x - n * y` for the
whole number `n` nearest `x / y` toward zero. It is computed exactly, and it is always a
double: both values are whole multiples of the smaller of their two powers of two, and so is
the remainder. It has the sign of `x`, a zero included. An infinite `x`, a zero `y` or a value
that is not a number give not a number; an infinite `y` leaves a finite `x` as it is. -/
def truncRemainder (x y : Float) : Float :=
  match decode x, decode y with
  | .signed neg (.finite mx ex), .signed _ (.finite my ey) =>
    if my = 0 then nan else
    let e := min ex ey
    let r := (mx * Nat.pow 2 (ex - e).toNat) % (my * Nat.pow 2 (ey - e).toNat)
    let (n, d) := pow2Ratio e
    ofRatio neg (r * n) d
  | .signed _ (.finite _ _), .signed _ .infinite => x
  | _, _ => nan

end Tabula.Binary
