import Tabula.Decimal.Layout
import Tabula.Text.Quoted

/-!
# Cells

A cell is a value that a table holds or that a record writer writes: nothing, a truth value,
a whole number, a double, a text, a byte string, or a list or a table of cells. Every cell
has a written form (`Cell.literal`), in which texts are quoted and lists and tables are
bracketed, and a display form (`Cell.display`), which is the text itself for a text and the
written form for everything else.
-/

namespace Tabula

/-- A value held in a table or written in a record. -/
inductive Cell where
  | none
  | bool (b : Bool)
  | int (n : Int)
  | float (x : Float)
  | text (s : String)
  | bytes (bs : List UInt8)
  | list (items : List Cell)
  | dict (entries : List (Cell × Cell))
  deriving Inhabited

namespace Cell

/-- The name of the kind of a cell, as messages show it. -/
def kindName : Cell → String
  | .none => "NoneType"
  | .bool _ => "bool"
  | .int _ => "int"
  | .float _ => "float"
  | .text _ => "str"
  | .bytes _ => "bytes"
  | .list _ => "list"
  | .dict _ => "dict"

/-- The decimal text of a whole number. -/
def intText (n : Int) : String :=
  if n < 0 then "-" ++ toString n.natAbs else toString n.natAbs

/-- The written form of a cell: texts quoted, lists in square brackets, tables in braces with
a colon between key and value, doubles in their shortest form. -/
def literal : Cell → String
  | .none => "None"
  | .bool b => if b then "True" else "False"
  | .int n => intText n
  | .float x => Decimal.Style.shortest.render x
  | .text s => Text.quote s
  | .bytes bs => Text.quoteBytes bs
  | .list items => "[" ++ ", ".intercalate (items.attach.map fun ⟨c, _⟩ => literal c) ++ "]"
  | .dict entries =>
    "\x7b" ++ ", ".intercalate (entries.attach.map fun ⟨kv, _⟩ =>
      literal kv.1 ++ ": " ++ literal kv.2) ++ "\x7d"
termination_by c => sizeOf c
decreasing_by
  all_goals simp_wf
  · have := List.sizeOf_lt_of_mem ‹_ ∈ items›; omega
  · have := List.sizeOf_lt_of_mem ‹kv ∈ entries›; cases kv; simp at this ⊢; omega
  · have := List.sizeOf_lt_of_mem ‹kv ∈ entries›; cases kv; simp at this ⊢; omega

/-- The display form: a text is itself, everything else is its written form. -/
def display : Cell → String
  | .text s => s
  | c => c.literal

/-- The members of a cell taken as a sequence: the items of a list, the characters of a
text, the keys of a table, the bytes of a byte string as numbers. -/
def members? : Cell → Option (List Cell)
  | .list items => some items
  | .text s => some (s.toList.map fun c => .text (String.singleton c))
  | .dict entries => some (entries.map (·.1))
  | .bytes bs => some (bs.map fun b => .int b.toNat)
  | _ => Option.none

end Cell

/-- The written form of a list of texts. -/
def textListLiteral (xs : List String) : String :=
  (Cell.list (xs.map .text)).literal

end Tabula
