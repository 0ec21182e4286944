import Tabula.Binary.Float

/-!
# Decimal digits of a double

For a positive finite double `v = m * 2 ^ e` the reals that round back to `v` form an interval
around it: half the gap to each neighbour on either side, the ends included when `m` is even.
`shortest` tries decimal grids of 1, 2, … 17 significant digits; on each grid it tests the two
grid points next to `v`. The first grid with a point inside the interval wins, and of two
points inside the nearer one is taken (an exact tie takes the even one). Seventeen digits
always suffice, so the search ends with a hit.
-/

namespace Tabula.Decimal

/-- A decimal number `digits * 10 ^ exp`. -/
structure Scientific where
  digits : Nat
  exp : Int
  deriving Repr, BEq, DecidableEq, Inhabited

/-- Compares `a * 10 ^ p` with `b * 2 ^ q` exactly. -/
def compareTenTwo (a : Nat) (p : Int) (b : Nat) (q : Int) : Ordering :=
  compare (a * Nat.pow 10 p.toNat * Nat.pow 2 (-q).toNat) (b * Nat.pow 2 q.toNat * Nat.pow 10 (-p).toNat)

/-- `⌊m * 2 ^ e / 10 ^ j⌋`. -/
def floorOnGrid (m : Nat) (e j : Int) : Nat :=
  (m * Nat.pow 2 e.toNat * Nat.pow 10 (-j).toNat) / (Nat.pow 2 (-e).toNat * Nat.pow 10 j.toNat)

/-- Moves an estimate `k` of `⌊log₁₀ (m * 2 ^ e)⌋` to the exact value, one step at a
time. -/
def fixLog10 (m : Nat) (e : Int) : Nat → Int → Int
  | 0, k => k
  | fuel + 1, k =>
    if compareTenTwo 1 k m e == .gt then fixLog10 m e fuel (k - 1)
    else if compareTenTwo 1 (k + 1) m e != .gt then fixLog10 m e fuel (k + 1)
    else k

/-- `⌊log₁₀ (m * 2 ^ e)⌋` for `m > 0`. -/
def floorLog10 (m : Nat) (e : Int) : Int :=
  fixLog10 m e 8 ((((m.log2 : Int) + e) * 30103) / 100000)

/-- The number of decimal digits of a positive natural. -/
def digitCount (n : Nat) : Nat := (Nat.toDigits 10 n).length

/-- Drops trailing zero digits, raising the exponent to match. -/
def Scientific.trim (s : Scientific) : Scientific :=
  go s.digits s.exp s.digits
where
  go (d : Nat) (x : Int) : Nat → Scientific
    | 0 => ⟨d, x⟩
    | fuel + 1 => if d ≠ 0 ∧ d % 10 = 0 then go (d / 10) (x + 1) fuel else ⟨d, x⟩

/-- The fewest significant digits that read back as the positive double `m * 2 ^ e`; of
several such, the nearest. -/
def shortest (m : Nat) (e : Int) : Scientific :=
  let inclusive := m % 2 = 0
  let low := if m = Nat.pow 2 52 ∧ e > -1074 then 4 * m - 1 else 4 * m - 2
  let high := 4 * m + 2
  let above (c : Nat) (j : Int) : Bool :=
    match compareTenTwo c j low (e - 2) with
    | .gt => true
    | .eq => inclusive
    | .lt => false
  let below (c : Nat) (j : Int) : Bool :=
    match compareTenTwo c j high (e - 2) with
    | .lt => true
    | .eq => inclusive
    | .gt => false
  let inside (c : Nat) (j : Int) : Bool := above c j && below c j
  let top := floorLog10 m e
  let attempt (n : Nat) : Option Scientific :=
    let j := top - n + 1
    let lo := floorOnGrid m e j
    match inside lo j, inside (lo + 1) j with
    | true, true =>
      match compareTenTwo (2 * lo + 1) j (2 * m) e with
      | .gt => some ⟨lo, j⟩
      | .lt => some ⟨lo + 1, j⟩
      | .eq => some (if lo % 2 = 0 then ⟨lo, j⟩ else ⟨lo + 1, j⟩)
    | true, false => some ⟨lo, j⟩
    | false, true => some ⟨lo + 1, j⟩
    | false, false => none
  let found := ((List.range 17).map (· + 1)).findSome? attempt
  (found.getD ⟨floorOnGrid m e (top - 16), top - 16⟩).trim

end Tabula.Decimal
