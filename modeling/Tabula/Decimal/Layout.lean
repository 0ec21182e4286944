import Tabula.Decimal.Shortest

/-!
# Writing a double as text

A `Style` holds the decisions of one written form of doubles: which decimal exponents are
written positionally, whether an integral value keeps a point and a zero, how the exponent is
marked and padded, and the words for infinity and for a value that is not a number.
`Style.render` lays out the digits that `shortest` chose.
-/

namespace Tabula.Decimal

open Tabula.Binary

/-- The decisions of one written form of doubles. -/
structure Style where
  /-- Decimal exponents from `minPositional` to `maxPositional` are written positionally. -/
  minPositional : Int
  maxPositional : Int
  /-- Whether a single digit in exponent form still gets `.0` (`1.0e+20` against `1e+20`). -/
  pointZeroInExponent : Bool
  /-- The least number of exponent digits. -/
  exponentDigits : Nat
  /-- Whether negative zero shows its sign. -/
  signedZero : Bool
  nanText : String
  infText : String

/-- The decimal digits of a natural, as characters. -/
def digitChars (n : Nat) : List Char := Nat.toDigits 10 n

/-- Lays out significant digits `ds` (no trailing zeros) whose first digit has decimal
exponent `top`. Positional forms always show a point with at least one digit after it. -/
def Style.layout (st : Style) (ds : List Char) (top : Int) : List Char :=
  if st.minPositional ≤ top ∧ top ≤ st.maxPositional then
    if 0 ≤ top then
      let whole := top.toNat + 1
      let intPart := ds.take whole ++ List.replicate (whole - ds.length) '0'
      let frac := ds.drop whole
      intPart ++ '.' :: (if frac.isEmpty then ['0'] else frac)
    else
      '0' :: '.' :: List.replicate ((-top).toNat - 1) '0' ++ ds
  else
    let mant := match ds with
      | [] => ['0']
      | [d] => if st.pointZeroInExponent then [d, '.', '0'] else [d]
      | d :: rest => d :: '.' :: rest
    let expDigits := digitChars top.natAbs
    let padded := List.replicate (st.exponentDigits - expDigits.length) '0' ++ expDigits
    mant ++ 'e' :: (if top < 0 then '-' else '+') :: padded

/-- The text of a double in a style. -/
def Style.render (st : Style) (x : Float) : String :=
  match decode x with
  | .nan => st.nanText
  | .signed neg .infinite => if neg then "-" ++ st.infText else st.infText
  | .signed neg (.finite m e) =>
    let sign := if neg ∧ (m ≠ 0 ∨ st.signedZero) then "-" else ""
    if m = 0 then sign ++ "0.0" else
    let s := shortest m e
    let ds := digitChars s.digits
    sign ++ String.ofList (st.layout ds (s.exp + ds.length - 1))

/-- The shortest text that reads back: positional for decimal exponents from -4 to 15, else
`d.ddde±XX` with at least two exponent digits; integral values keep `.0`. -/
def Style.shortest : Style :=
  { minPositional := -4, maxPositional := 15, pointZeroInExponent := false,
    exponentDigits := 2, signedZero := true, nanText := "nan", infText := "inf" }

end Tabula.Decimal
