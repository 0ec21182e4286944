import Tabula.Tool.Split
import Tabula.Proofs.Csv.Rows

/-!
# Cells of a row in the order of a header

A command that writes a table back asks each row for the cells of the header names in turn
(`cellsInOrder`); the first name that a row lacks is a fault.  The rows of a table read under a
header of distinct names are zips of the header with the record's cells (`rowOf_of_nodup`), and
for such rows this module gives every answer in closed form:

* `Row.get?_zip` and `Row.set_zip`: a zip is looked up and updated by the position of the name
  in the header.
* `cellsInOrder_zip`: a zip with at least as many cells as the header gives its cells back, cut
  to the header.
* `cellsInOrder_zip_short`: a zip with fewer cells is a fault that names the first header name
  it lacks.  `cellsInOrder_zip_eq` puts the two together.

The facts about `List.mapM` in the `Except` monad that these rest on come first: a map succeeds
with the values where every member does, and fails exactly where some member fails.
-/

namespace Tabula.Tool

open Tabula.Csv

/-! ## Mapping in the `Except` monad -/

section MapM

variable {ε α β : Type} {f g : α → Except ε β}

/-- A map in the `Except` monad reads the function only on the list's members. -/
theorem mapM_congr {xs : List α} (h : ∀ x ∈ xs, f x = g x) : xs.mapM f = xs.mapM g := by
  induction xs with
  | nil => rfl
  | cons x xs ih =>
    rw [List.mapM_cons, List.mapM_cons, h x List.mem_cons_self,
      ih fun y hy => h y (List.mem_cons_of_mem _ hy)]

/-- Where every member maps to a value, the map succeeds with the values in order. -/
theorem mapM_eq_ok {xs : List α} {v : α → β} (h : ∀ x ∈ xs, f x = .ok (v x)) :
    xs.mapM f = .ok (xs.map v) := by
  induction xs with
  | nil => rfl
  | cons x xs ih =>
    rw [List.mapM_cons, h x List.mem_cons_self, ih fun y hy => h y (List.mem_cons_of_mem _ hy)]
    rfl

/-- A map in the `Except` monad fails exactly when the function fails on some member. -/
theorem mapM_isError_iff {xs : List α} :
    (∃ e, xs.mapM f = .error e) ↔ ∃ x ∈ xs, ∃ e, f x = .error e := by
  induction xs with
  | nil => simp [List.mapM_nil, pure, Except.pure]
  | cons x xs ih =>
    rw [List.mapM_cons]
    cases hx : f x with
    | error e => simp [hx, bind, Except.bind]
    | ok b =>
      -- the head succeeds, so the map fails where the tail's map does
      have htail : (∃ e, (do let t ← xs.mapM f; pure (b :: t) : Except ε (List β)) = .error e) ↔
          ∃ e, xs.mapM f = .error e := by
        cases xs.mapM f <;> simp [bind, Except.bind, pure, Except.pure]
      simp only [bind, Except.bind] at htail ⊢
      rw [htail, ih]
      simp [hx]

/-- Every failure of a map in the `Except` monad is a failure of the function on a member. -/
theorem exists_mem_of_mapM_eq_error {xs : List α} {e : ε} (h : xs.mapM f = .error e) :
    ∃ x ∈ xs, f x = .error e := by
  induction xs with
  | nil => cases h
  | cons x xs ih =>
    rw [List.mapM_cons] at h
    cases hx : f x with
    | error e' =>
      rw [hx] at h
      cases h
      exact ⟨x, List.mem_cons_self, hx⟩
    | ok b =>
      rw [hx] at h
      cases ht : xs.mapM f with
      | error e' =>
        rw [ht] at h
        cases h
        obtain ⟨y, hy, hfy⟩ := ih ht
        exact ⟨y, List.mem_cons_of_mem _ hy, hfy⟩
      | ok t =>
        rw [ht] at h
        cases h

end MapM

/-! ## Rows that zip a header with cells -/

section Zip

variable {α : Type}

/-- A zip of a header with cells holds a name at the name's first position in the header, as
far as the cells go. -/
theorem Row.get?_zip : ∀ (header : List String) (cells : List α) (k : String),
    Row.get? (header.zip cells) k = if k ∈ header then cells[header.idxOf k]? else none
  | [], _, _ => rfl
  | _ :: _, [], _ => by simp [Row.get?]
  | h :: header, c :: cells, k => by
    by_cases hk : k = h
    · subst hk
      simp [Row.get?]
    · have hk' : h ≠ k := Ne.symm hk
      have ih := Row.get?_zip header cells k
      simp only [Row.get?] at ih
      rw [Row.get?, List.zip_cons_cons, List.lookup_cons, beq_eq_false_iff_ne.2 hk]
      simp [hk, List.idxOf_cons, beq_eq_false_iff_ne.2 hk', ih]

/-- Setting a header name whose column a zip reaches replaces the cell in that column. -/
theorem Row.set_zip : ∀ {header : List String} {cells : List α} {k : String},
    header.idxOf k < cells.length → k ∈ header → ∀ v : α,
      Row.set (header.zip cells) k v = header.zip (cells.set (header.idxOf k) v)
  | [], _, _, _, hk, _ => by simp at hk
  | _ :: _, [], _, hidx, _, _ => by simp at hidx
  | h :: header, c :: cells, k, hidx, hk, v => by
    by_cases hhk : h = k
    · subst hhk
      simp [Row.set]
    · have hne : (h == k) = false := beq_eq_false_iff_ne.2 hhk
      have hk' : k ∈ header := by simpa [Ne.symm hhk] using hk
      have hidx' : header.idxOf k < cells.length := by
        simpa [List.idxOf_cons, hne] using hidx
      simp [Row.set, List.idxOf_cons, hne, Row.set_zip hidx' hk' v]

/-- A name that a header does not hold is never asked for. -/
theorem cellsInOrder_cons_of_not_mem {header : List String} {k : String} (hk : k ∉ header)
    (v : α) (row : Row α) : cellsInOrder header ((k, v) :: row) = cellsInOrder header row := by
  refine mapM_congr fun h hh => ?_
  have hne : (h == k) = false := by
    rw [beq_eq_false_iff_ne]
    exact fun heq => hk (heq ▸ hh)
  simp [Row.get?, List.lookup_cons, hne]

/-- The header's cells of a zip with the header's first name in front. -/
theorem cellsInOrder_cons_zip {h : String} {header : List String} (hh : h ∉ header) (c : α)
    (cells : List α) :
    cellsInOrder (h :: header) ((h, c) :: header.zip cells) =
      (cellsInOrder header (header.zip cells)).map (c :: ·) := by
  have htail := cellsInOrder_cons_of_not_mem hh c (header.zip cells)
  cases hm : cellsInOrder header (header.zip cells) with
  | error e =>
    rw [← htail] at hm
    unfold cellsInOrder at hm ⊢
    rw [List.mapM_cons, hm]
    simp [Row.get?, bind, Except.bind, Except.map]
  | ok cs =>
    rw [← htail] at hm
    unfold cellsInOrder at hm ⊢
    rw [List.mapM_cons, hm]
    simp [Row.get?, bind, Except.bind, Except.map, pure, Except.pure]

/-- A zip of a header of distinct names with at least as many cells gives the cells back, cut
to the header. -/
theorem cellsInOrder_zip : ∀ {header : List String}, header.Nodup → ∀ {cells : List α},
    header.length ≤ cells.length →
      cellsInOrder header (header.zip cells) = .ok (cells.take header.length)
  | [], _, _, _ => rfl
  | _ :: _, _, [], hlen => by simp at hlen
  | h :: header, hnodup, c :: cells, hlen => by
    have hparts := List.nodup_cons.1 hnodup
    have hrest : header.length ≤ cells.length := by simpa using hlen
    rw [List.zip_cons_cons, cellsInOrder_cons_zip hparts.1,
      cellsInOrder_zip hparts.2 hrest]
    rfl

/-- A zip of a header of distinct names with fewer cells is a fault naming the first header
name without a cell. -/
theorem cellsInOrder_zip_short : ∀ {header : List String}, header.Nodup → ∀ {cells : List α}
    (hlen : cells.length < header.length),
      cellsInOrder header (header.zip cells) = .error (.missingKey header[cells.length])
  | [], _, _, hlen => by simp at hlen
  | h :: header, _, [], _ => by
    simp [cellsInOrder, Row.get?, bind, Except.bind]
  | h :: header, hnodup, c :: cells, hlen => by
    have hparts := List.nodup_cons.1 hnodup
    have hrest : cells.length < header.length := by simpa using hlen
    rw [List.zip_cons_cons, cellsInOrder_cons_zip hparts.1,
      cellsInOrder_zip_short hparts.2 hrest]
    rfl

/-- The header's cells of a zip of a header of distinct names with cells, in closed form. -/
theorem cellsInOrder_zip_eq {header : List String} (hnodup : header.Nodup) (cells : List α) :
    cellsInOrder header (header.zip cells) =
      if h : cells.length < header.length then .error (.missingKey header[cells.length])
      else .ok (cells.take header.length) := by
  by_cases h : cells.length < header.length
  · rw [dif_pos h, cellsInOrder_zip_short hnodup h]
  · rw [dif_neg h, cellsInOrder_zip hnodup (Nat.le_of_not_lt h)]

end Zip

end Tabula.Tool
