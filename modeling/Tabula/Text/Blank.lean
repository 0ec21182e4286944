import Tabula.Text.Ranges

/-!
# Blank characters

Two notions of blank are used by the library. The full set (tab to carriage return, the
information separators U+001C to U+001F, space, next line, no-break space, the Unicode space
separators and the line and paragraph separators) trims whole input lines and splits words.
The ASCII set (space, tab, newline, carriage return, vertical tab, form feed) trims the bytes
of a cell and separates the parts of a number.
-/

namespace Tabula.Text

/-- The full blank set as code point ranges. -/
def blankTable : RangeTable :=
  [(0x9, 0xd), (0x1c, 0x20), (0x85, 0x85), (0xa0, 0xa0), (0x1680, 0x1680), (0x2000, 0x200a),
   (0x2028, 0x2029), (0x202f, 0x202f), (0x205f, 0x205f), (0x3000, 0x3000)]

/-- A character of the full blank set. -/
def isBlank (c : Char) : Bool := blankTable.contains c.toNat

/-- A character of the ASCII blank set. -/
def isAsciiBlank (c : Char) : Bool :=
  c == ' ' || c == '\t' || c == '\n' || c == '\r' || c == '\x0b' || c == '\x0c'

/-- Drops the characters satisfying `p` at both ends. -/
def trimBy (p : Char → Bool) (cs : List Char) : List Char :=
  ((cs.dropWhile p).reverse.dropWhile p).reverse

/-- Drops full blanks at both ends. -/
def trimBlank (cs : List Char) : List Char := trimBy isBlank cs

/-- Drops ASCII blanks at both ends. -/
def trimAsciiBlank (cs : List Char) : List Char := trimBy isAsciiBlank cs

/-- Splits on runs of full blanks; the words are never empty. -/
def words (cs : List Char) : List (List Char) :=
  (cs.splitBy fun a b => !isBlank a && !isBlank b).filter fun w => w.any (!isBlank ·)

theorem isAsciiBlank_isBlank {c : Char} (h : isAsciiBlank c = true) : isBlank c = true := by
  simp only [isAsciiBlank, Bool.or_eq_true, beq_iff_eq] at h
  rcases h with ((((h | h) | h) | h) | h) | h <;> subst h <;> decide

example : isBlank '　' = true ∧ isBlank '\x1f' = true ∧ isBlank '​' = false := by decide

end Tabula.Text
