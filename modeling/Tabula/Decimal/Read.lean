import Tabula.Binary.Float
import Tabula.Text.Blank
import Tabula.Text.Digit

/-!
# Reading numbers written in decimal

Number text may use the decimal digits of any script (each stands for its value) and may
have ASCII blanks around it. Characters outside ASCII are read first: a blank becomes a space, a
decimal digit its ASCII digit, and anything else a `?`, which no number holds; ASCII characters
are kept, the separators U+001C to U+001F too, so they are no blanks around a number. Inside
the number a single underscore may stand between two digits.
A real number is a sign, digits with an optional point and fraction (or a point and a
fraction), and an optional exponent; or one of the words `inf`, `infinity`, `nan` in any
case. It is read as the nearest double, ties to even. A whole number is a sign and digits.
-/

namespace Tabula.Decimal

open Tabula.Text Tabula.Binary

/-- How a character of number text is read: ASCII is kept; beyond it a blank becomes a space,
a decimal digit its ASCII digit, and any other character a `?`. (Reading stops at the `?`, which
makes no difference: no text holding one is a number.) -/
def normalizeChar (c : Char) : Char :=
  if c.toNat < 127 then c
  else if isBlank c then ' '
  else match digitValue? c with
    | some d => Char.ofNat (48 + d)
    | none => '?'

/-- Number text as it is read, character by character. -/
def normalizeDigits (cs : List Char) : List Char :=
  cs.map normalizeChar

/-- Every underscore stands between two ASCII digits. -/
def underscoresBetweenDigits (cs : List Char) : Bool :=
  go '\x00' cs
where
  go (prev : Char) : List Char → Bool
    | [] => prev != '_'
    | c :: rest =>
      if c == '_' then prev.isDigit && go c rest
      else (prev != '_' || c.isDigit) && go c rest

/-- The value of a run of ASCII digits. -/
def digitsValue (ds : List Char) : Nat :=
  ds.foldl (fun acc d => acc * 10 + (d.toNat - 48)) 0

/-- The body of a number: everything but blanks around it, with underscores checked and
dropped; `none` if an underscore is out of place. -/
def numberBody (s : String) : Option (List Char) :=
  let cs := normalizeDigits s.toList
  if underscoresBetweenDigits cs then
    some (trimAsciiBlank (cs.filter (· != '_')))
  else none

/-- Splits off a leading sign. -/
def splitSign : List Char → Bool × List Char
  | '-' :: rest => (true, rest)
  | '+' :: rest => (false, rest)
  | cs => (false, cs)

/-- The double nearest to `±digits * 10 ^ scale`; magnitudes far outside the range of doubles
go straight to zero or infinity. -/
def nearestDouble (neg : Bool) (digits : Nat) (scale : Int) : Float :=
  if digits = 0 then encode neg (.finite 0 (-1074)) else
  let size : Int := (Nat.toDigits 10 digits).length + scale
  if size > 400 then infinity neg
  else if size < -400 then encode neg (.finite 0 (-1074))
  else if 0 ≤ scale then ofRatio neg (digits * Nat.pow 10 scale.toNat) 1
  else ofRatio neg digits (Nat.pow 10 (-scale).toNat)

/-- Reads the unsigned part of a real number: digits, point, fraction, exponent. -/
def readUnsignedReal (neg : Bool) (cs : List Char) : Option Float :=
  let lower := String.ofList (cs.map Char.toLower)
  if lower == "inf" || lower == "infinity" then some (infinity neg)
  else if lower == "nan" then some nan
  else
    let whole := cs.takeWhile Char.isDigit
    let rest := cs.dropWhile Char.isDigit
    let (frac, rest) := match rest with
      | '.' :: r => (r.takeWhile Char.isDigit, r.dropWhile Char.isDigit)
      | r => ([], r)
    if whole.isEmpty && frac.isEmpty then none else
    let expPart : Option Int := match rest with
      | [] => some 0
      | e :: r =>
        if e == 'e' || e == 'E' then
          let (eneg, ds) := splitSign r
          if !ds.isEmpty && ds.all Char.isDigit then
            let v : Int := digitsValue ds
            some (if eneg then -v else v)
          else none
        else none
    expPart.map fun ex =>
      nearestDouble neg (digitsValue (whole ++ frac)) (ex - frac.length)

/-- Reads a real number, or `none` if the text is not one. -/
def readReal? (s : String) : Option Float := do
  let body ← numberBody s
  let (neg, rest) := splitSign body
  readUnsignedReal neg rest

/-- Reads a whole number, or `none` if the text is not one. -/
def readWhole? (s : String) : Option Int := do
  let body ← numberBody s
  let (neg, ds) := splitSign body
  if ds.isEmpty || !ds.all Char.isDigit then none
  else
    let v : Int := digitsValue ds
    some (if neg then -v else v)

end Tabula.Decimal
