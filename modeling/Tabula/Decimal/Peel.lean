import Tabula.Binary.Float

/-!
# Digits peeled off a double

The engine writes a double with a given number of digits in 80-bit extended arithmetic, each
operation rounded to that format:

1. A rounding half for the last digit asked for is added: before scaling when the digits are
   counted after the point, after scaling when they are counted from the first significant
   digit. When few digits are asked for after the point, a push of `3e-16` of the value is
   added to the half. The half itself is a double.
2. The value is scaled by powers of ten into `[1, 10)`, the powers built by multiplying.
3. The digits are peeled off one at a time: the integer part is the digit, and the rest is
   multiplied by ten. Only the first sixteen digits are peeled (twenty-six in the extended
   form); later places are zeros.

Each step rounds, so the digits are not always those of the exact decimal expansion:
`141.0` written with twenty decimals reads `140.99999999999990000000`, and a value whose
sixteenth digit is a final `5` may round either way.

`RealSpec.write` lays the digits out positionally, with an exponent, or whichever suits the
size, as the `f`, `e` and `g` conversions of a format do.
-/

namespace Tabula.Decimal

open Tabula.Binary

/-- How a double is written: positionally, with an exponent, or whichever suits its size. -/
inductive RealStyle where
  | fixed
  | exponent
  | general
  deriving BEq

/-- The options of one written double: the style, the number of digits (after the point, or
significant for `general`), the alternate form (`#`: the point always shows, and `general`
keeps trailing zeros), the extended form (`!`: twenty-six digits, and a lone point gets a
zero), and grouping of the whole part in threes. -/
structure RealSpec where
  style : RealStyle
  precision : Nat
  alternate : Bool := false
  extended : Bool := false
  thousands : Bool := false

/-- A double as written: not a number, or a sign and the text of its magnitude. -/
inductive Written where
  | nan
  | signed (neg : Bool) (body : List Char)

/-- A product in extended arithmetic. -/
def mulX (a b : Exact) : Exact := Exact.mul Format.extended a b

/-- A sum in extended arithmetic. -/
def addX (a b : Exact) : Exact := Exact.add Format.extended a b

/-- A double constant, exactly. -/
def constant (x : Float) : Exact := Exact.ofDouble x

/-- The rounding half of the `p`-th decimal place: a half of a power of ten from a table of
ten, lowered by `1e-10` for each further ten places. The half is a double, so each lowering
rounds to a double. -/
def roundingHalf (p : Nat) : Exact :=
  let table : List Float :=
    [5.0e-1, 5.0e-2, 5.0e-3, 5.0e-4, 5.0e-5, 5.0e-6, 5.0e-7, 5.0e-8, 5.0e-9, 5.0e-10]
  (List.range (p / 10)).foldl (fun r _ => Exact.mul Format.double r (constant 1.0e-10))
    (constant (table.getD (p % 10) 0.5))

/-- The binary exponent of a double: its stored exponent less the bias. -/
def binaryExponent (x : Float) : Int := ((x.toBits >>> 52).toNat % 2048 : Nat) - 1023

/-- Raises a power of ten `scale` by `step` (`k` decimal places each time) while `v` is at
least `step * scale` and the exponent has not passed 350. -/
def raiseScale (v step : Exact) (k : Nat) : Nat → Exact × Int → Exact × Int
  | 0, acc => acc
  | fuel + 1, (scale, exp) =>
    if (mulX step scale).le v && exp ≤ 350 then
      raiseScale v step k fuel (mulX scale step, exp + k)
    else (scale, exp)

/-- Multiplies `v` by `factor` (`k` decimal places each time) while it is below `limit`. -/
def raiseValue (limit factor : Exact) (k : Nat) : Nat → Exact × Int → Exact × Int
  | 0, acc => acc
  | fuel + 1, (v, exp) =>
    if v.lt limit then raiseValue limit factor k fuel (mulX v factor, exp - k) else (v, exp)

/-- How many steps the scaling loops may take; no double needs more. -/
def scaleFuel : Nat := 400

/-- A positive finite value scaled into `[1, 10)`, with its decimal exponent. -/
def scaleToUnit (v : Exact) : Exact × Int :=
  let acc := raiseScale v (constant 1.0e100) 100 scaleFuel (Exact.ofNat 1, 0)
  let acc := raiseScale v (constant 1.0e10) 10 scaleFuel acc
  let (scale, exp) := raiseScale v (constant 10.0) 1 scaleFuel acc
  let acc := raiseValue (constant 1.0e-8) (constant 1.0e8) 8 scaleFuel
    (Exact.div Format.extended v scale, exp)
  raiseValue (Exact.ofNat 1) (constant 10.0) 1 scaleFuel acc

/-- Peels one digit: the integer part of `v` while digits are left to peel, else `0`. -/
def peelDigit (v : Exact) (left : Nat) : Char × Exact × Nat :=
  match left with
  | 0 => ('0', v, 0)
  | left + 1 =>
    let d := v.floor
    let rest := Exact.sub Format.extended v (Exact.ofNat d)
    (Char.ofNat (48 + d), mulX rest (Exact.ofNat 10), left)

/-- Peels `n` digits in turn. -/
def peelDigits : Nat → Exact → Nat → List Char × Exact × Nat
  | 0, v, left => ([], v, left)
  | n + 1, v, left =>
    let (c, v, left) := peelDigit v left
    let (cs, v, left) := peelDigits n v left
    (c :: cs, v, left)

/-- The whole part: the digit at each decimal place from `top` down to `0`, with a comma
after the digit of each place that is a multiple of three above the units when grouping. -/
def wholeDigits (thousands : Bool) : Nat → Nat → Exact → Nat → List Char × Exact × Nat
  | 0, _, v, left => ([], v, left)
  | n + 1, place, v, left =>
    let (c, v, left) := peelDigit v left
    let here := if thousands && place % 3 == 0 && place > 1 then [c, ','] else [c]
    let (cs, v, left) := wholeDigits thousands n (place - 1) v left
    (here ++ cs, v, left)

/-- The exponent suffix: the letter, the sign and at least two digits. -/
def exponentSuffix (upper : Bool) (x : Int) : List Char :=
  let ds := Nat.toDigits 10 x.natAbs
  (if upper then 'E' else 'e') :: (if x < 0 then '-' else '+') ::
    (List.replicate (2 - min 2 ds.length) '0' ++ ds)

/-- Writes the magnitude `v` of a finite double, given the digits asked for (`p`, already one
less for `general`) and the rounding half. -/
def RealSpec.writeFinite (s : RealSpec) (upper : Bool) (p : Nat) (half v : Exact) :
    List Char :=
  let (v, exp) := if v.isZero then (v, 0) else scaleToUnit v
  let (v, exp) :=
    if s.style == .fixed then (v, exp)
    else
      let v := addX v half
      if (Exact.ofNat 10).le v then (mulX v (constant 0.1), exp + 1) else (v, exp)
  let (positional, prec, trimZeros) : Bool × Nat × Bool := match s.style with
    | .general =>
      if exp < -4 || exp > p then (false, p, !s.alternate)
      else (true, (p - exp).toNat, !s.alternate)
    | .fixed => (true, p, s.extended)
    | .exponent => (false, p, s.extended)
  let e2 : Int := if positional then exp else 0
  let left := if s.extended then 26 else 16
  let (whole, v, left) :=
    if e2 < 0 then (['0'], v, left)
    else wholeDigits s.thousands (e2.toNat + 1) e2.toNat v left
  let point := prec > 0 || s.alternate || s.extended
  let zeros := min prec (if e2 < -1 then (-e2 - 1).toNat else 0)
  -- Past the significant digits every digit is `0`, so when trailing zeros go, no more
  -- digits than are left need peeling.
  let count := if trimZeros then min (prec - zeros) left else prec - zeros
  let (frac, _, _) := peelDigits count v left
  let body := whole ++ (if point then ['.'] else []) ++ List.replicate zeros '0' ++ frac
  let body :=
    if trimZeros && point then
      let t := (body.reverse.dropWhile (· == '0')).reverse
      if t.getLast? == some '.' then (if s.extended then t ++ ['0'] else t.dropLast) else t
    else body
  if positional then body else body ++ exponentSuffix upper exp

/-- Writes a double: the sign apart, its magnitude's digits laid out in the spec's style
(`Inf` for an infinite one), with an upper-case exponent letter when `upper`. -/
def RealSpec.write (s : RealSpec) (upper : Bool) (x : Float) : Written :=
  match decode x with
  | .nan => .nan
  | .signed _ .infinite => .signed (x < 0.0) "Inf".toList
  | .signed _ (.finite m e) =>
    let neg := x < 0.0
    let p := if s.style == .general && s.precision > 0 then s.precision - 1 else s.precision
    let half := roundingHalf (p % 4096)
    let v := Exact.ofMagnitude (.finite m e)
    let v :=
      if s.style == .fixed then
        let half :=
          if (p : Int) + (binaryExponent (if neg then -x else x)).tdiv 3 < 15 then
            Exact.round Format.double (addX half (mulX v (constant 3.0e-16)))
          else half
        addX v half
      else v
    .signed neg (s.writeFinite upper p half v)

/-- The text of a double as values are turned into text: fifteen significant digits in the
extended form, so that a whole value keeps `.0`. -/
def realText (x : Float) : String :=
  match ({ style := .general, precision := 15, extended := true } : RealSpec).write false x with
  | .nan => "NaN"
  | .signed neg body => String.ofList ((if neg then ['-'] else []) ++ body)

end Tabula.Decimal
