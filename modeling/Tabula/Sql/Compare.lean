import Tabula.Sql.Number

/-!
# Ordering values

Values of different storage classes are ordered by class: nothing first, then numbers, then
texts, then blobs. Numbers compare by their exact values, an integer against a double too
(a double that is not a number counts as equal to everything). Texts compare bytewise under a
collation: `binary` compares the bytes as they are, `nocase` first folds the ASCII capitals
to small letters, and `rtrim` ignores trailing spaces. Blobs compare bytewise. A prefix comes
first.
-/

namespace Tabula.Sql

open Tabula.Binary

/-- A rule for comparing texts. -/
inductive Collation where
  | binary
  | nocase
  | rtrim
  deriving Repr, BEq, DecidableEq, Inhabited

/-- The ASCII small letter of a capital; other characters are themselves. -/
def asciiLower (c : Char) : Char :=
  if 'A' ≤ c && c ≤ 'Z' then Char.ofNat (c.toNat + 32) else c

/-- The ASCII capital of a small letter; other characters are themselves. -/
def asciiUpper (c : Char) : Char :=
  if 'a' ≤ c && c ≤ 'z' then Char.ofNat (c.toNat - 32) else c

/-- Two names are the same when they agree up to ASCII case. -/
def sameName (a b : String) : Bool :=
  a.toList.map asciiLower == b.toList.map asciiLower

/-- The collation of a name, case ignored. -/
def Collation.ofName? (name : String) : Option Collation :=
  if sameName name "BINARY" then some .binary
  else if sameName name "NOCASE" then some .nocase
  else if sameName name "RTRIM" then some .rtrim
  else none

/-- Lexicographic order of two lists under an order of their items; a prefix comes first. -/
def compareLists {α : Type} (cmp : α → α → Ordering) : List α → List α → Ordering
  | [], [] => .eq
  | [], _ :: _ => .lt
  | _ :: _, [] => .gt
  | a :: as, b :: bs =>
    match cmp a b with
    | .eq => compareLists cmp as bs
    | o => o

/-- The ASCII small letter of a capital's byte; other bytes are themselves. -/
def asciiLowerByte (b : UInt8) : UInt8 := if 65 ≤ b && b ≤ 90 then b + 32 else b

/-- The ASCII capital of a small letter's byte; other bytes are themselves. -/
def asciiUpperByte (b : UInt8) : UInt8 := if 97 ≤ b && b ≤ 122 then b - 32 else b

/-- The bytes a collation compares. -/
def Collation.key : Collation → List UInt8 → List UInt8
  | .binary, bs => bs
  | .nocase, bs => bs.map asciiLowerByte
  | .rtrim, bs => (bs.reverse.dropWhile (· = 32)).reverse

/-- The order of two lists of bytes, a prefix first. -/
def compareBytes (a b : List UInt8) : Ordering :=
  compareLists (fun x y => Ord.compare x.toNat y.toNat) a b

/-- The order of two texts under a collation. -/
def Collation.compare (c : Collation) (a b : List UInt8) : Ordering :=
  compareBytes (c.key a) (c.key b)

/-- The order of two exact ratios `a / b` and `c / d` with positive denominators. -/
def compareRatios (a : Int) (b : Nat) (c : Int) (d : Nat) : Ordering :=
  Ord.compare (a * d) (c * b)

/-- The exact value of a finite double as a ratio, or `none` for infinities and not-a-number
(with the sign of an infinity). -/
def exactRatio (x : Float) : Option (Int × Nat) ⊕ Bool :=
  match decode x with
  | .nan => .inl none
  | .signed neg .infinite => .inr neg
  | .signed neg mag =>
    let (n, d) := mag.ratio
    .inl (some (if neg then -(n : Int) else n, d))

/-- The exact order of an integer and a double; not-a-number is equal to everything. -/
def compareIntReal (i : Int) (r : Float) : Ordering :=
  match exactRatio r with
  | .inl none => .eq
  | .inr neg => if neg then .gt else .lt
  | .inl (some (n, d)) => compareRatios i 1 n d

/-- The order of two doubles; not-a-number is equal to everything. -/
def compareReals (a b : Float) : Ordering :=
  if a < b then .lt else if a > b then .gt else .eq

/-- The order of two values: nothing, numbers, texts under the collation, blobs. -/
def Value.compare (coll : Collation) : Value → Value → Ordering
  | .null, .null => .eq
  | .null, _ => .lt
  | _, .null => .gt
  | .integer a, .integer b => Ord.compare a b
  | .integer a, .real b => compareIntReal a b
  | .real a, .integer b => (compareIntReal b a).swap
  | .real a, .real b => compareReals a b
  | .integer _, _ | .real _, _ => .lt
  | _, .integer _ | _, .real _ => .gt
  | .text a, .text b => coll.compare a b
  | .text _, .blob _ => .lt
  | .blob _, .text _ => .gt
  | .blob a, .blob b => compareBytes a b

/-- Whether two values are the same under a collation, nothing being equal to nothing. -/
def Value.same (coll : Collation) (a b : Value) : Bool := a.compare coll b == .eq

example : Value.compare .binary (.integer 1) (.real 1.5) = .lt ∧
    Value.compare .nocase (.ofString "a") (.ofString "B") = .lt ∧
    Value.compare .binary (.ofString "a") (.ofString "B") = .gt := by decide

end Tabula.Sql
