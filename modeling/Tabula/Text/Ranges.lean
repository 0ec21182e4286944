/-!
# Character classes as code point ranges

A class of characters is stored as a sorted list of disjoint closed ranges of code points.
Membership walks the list and stops at the first range that starts above the code point, so
a lookup never reads past the place where the answer is decided.
-/

namespace Tabula.Text

/-- A character class: sorted, disjoint, closed ranges of code points. -/
abbrev RangeTable := List (Nat × Nat)

/-- Whether a code point lies in one of the ranges of a sorted table. -/
def RangeTable.contains : RangeTable → Nat → Bool
  | [], _ => false
  | (lo, hi) :: rest, n => if n < lo then false else if n ≤ hi then true else contains rest n

@[simp] theorem RangeTable.contains_nil (n : Nat) : RangeTable.contains [] n = false := rfl

end Tabula.Text
