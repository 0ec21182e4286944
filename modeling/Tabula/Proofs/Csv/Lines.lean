import Tabula.Csv.Table

/-!
# Lines of a table's text

`recordLines` cuts a text after each newline, drops the bare newlines and the comment lines,
and trims every other line of blanks at both ends.  This module says what that does to a text
built from lines that carry no newline of their own, each followed by one.

* `splitLines_append_newline` is the one equation of the cut: a line with no newline in it,
  followed by a newline, is cut off as one line.  `splitLines_flatMap_newline` takes it over a
  whole text, and `splitLines_spec` says what the cut is for every text: the lines, each with
  its newline, then the last piece with no newline, if there is one.
* `trimBy_eq_self` says when trimming changes nothing, and `trimBy_append_of_forall` that
  characters which are all trimmed, added at the end, are trimmed away with the rest.
* `recordLines_ofList_flatMap` gives the lines that the record reader is handed for such a
  text: the lines themselves, when each is a `KeptLine`.
-/

namespace Tabula.Csv

open Tabula.Text

/-! ## Cutting a text into lines -/

/-- A line with no newline in it, followed by a newline, is cut off as one line. -/
theorem splitLines_append_newline {line : List Char} (hline : '\n' ∉ line)
    (rest : List Char) :
    splitLines (line ++ '\n' :: rest) = (line ++ ['\n']) :: splitLines rest := by
  induction line with
  | nil => simp [splitLines]
  | cons c line ih =>
    have hc : c ≠ '\n' := fun h => hline (h ▸ List.mem_cons_self)
    have hrest : '\n' ∉ line := fun h => hline (List.mem_cons_of_mem _ h)
    simp [splitLines, hc, ih hrest]

/-- Lines with no newline in them, each followed by a newline, are cut apart again. -/
theorem splitLines_flatMap_newline {lines : List (List Char)}
    (h : ∀ l ∈ lines, '\n' ∉ l) :
    splitLines (lines.flatMap (· ++ ['\n'])) = lines.map (· ++ ['\n']) := by
  induction lines with
  | nil => rfl
  | cons l lines ih =>
    have hl : '\n' ∉ l := h l List.mem_cons_self
    have hrest : ∀ l' ∈ lines, '\n' ∉ l' := fun l' hl' => h l' (List.mem_cons_of_mem _ hl')
    rw [List.flatMap_cons, List.append_assoc, List.singleton_append,
      splitLines_append_newline hl, ih hrest, List.map_cons]

/-- A piece with no newline in it is one line, or none when it is empty. -/
theorem splitLines_of_not_mem {cs : List Char} (h : '\n' ∉ cs) :
    splitLines cs = if cs = [] then [] else [cs] := by
  induction cs with
  | nil => rfl
  | cons c cs ih =>
    have hc : (c == '\n') = false := beq_eq_false_iff_ne.2 fun e => h (e ▸ List.mem_cons_self)
    rw [splitLines, hc, ih fun m => h (List.mem_cons_of_mem _ m)]
    by_cases hcs : cs = [] <;> simp [hcs]

/-- Lines with no newline in them, each followed by a newline, and a last piece with no newline
are cut into the lines with their newlines and the last piece, unless it is empty. -/
theorem splitLines_lines {lines : List (List Char)} {tail : List Char}
    (hlines : ∀ l ∈ lines, '\n' ∉ l) (htail : '\n' ∉ tail) :
    splitLines (lines.flatMap (· ++ ['\n']) ++ tail) =
      lines.map (· ++ ['\n']) ++ (if tail = [] then [] else [tail]) := by
  induction lines with
  | nil => simpa using splitLines_of_not_mem htail
  | cons l lines ih =>
    have hl : '\n' ∉ l := hlines l List.mem_cons_self
    rw [List.flatMap_cons, List.append_assoc, List.append_assoc, List.singleton_append,
      splitLines_append_newline hl, ih fun l' hl' => hlines l' (List.mem_cons_of_mem _ hl')]
    rfl

/-- Every text is lines with no newline in them, each followed by a newline, and a last piece
with no newline. -/
theorem exists_lines (cs : List Char) :
    ∃ (lines : List (List Char)) (tail : List Char), (∀ l ∈ lines, '\n' ∉ l) ∧ '\n' ∉ tail ∧
      cs = lines.flatMap (· ++ ['\n']) ++ tail := by
  induction cs with
  | nil => exact ⟨[], [], by simp, by simp, rfl⟩
  | cons c cs ih =>
    obtain ⟨lines, tail, hlines, htail, rfl⟩ := ih
    by_cases hc : c = '\n'
    · -- the newline ends an empty first line
      subst hc
      exact ⟨[] :: lines, tail, by simpa using hlines, htail, rfl⟩
    · -- the character opens the first line, or the last piece when no line is left
      cases lines with
      | nil => exact ⟨[], c :: tail, by simp, by simp [Ne.symm hc, htail], rfl⟩
      | cons l ls =>
        refine ⟨(c :: l) :: ls, tail, ?_, htail, rfl⟩
        simpa [Ne.symm hc] using hlines

/-- The cut of a text: after each newline, with the last piece that has no newline counted as a
line when it is not empty. -/
theorem splitLines_spec (cs : List Char) :
    ∃ (lines : List (List Char)) (tail : List Char), (∀ l ∈ lines, '\n' ∉ l) ∧ '\n' ∉ tail ∧
      cs = lines.flatMap (· ++ ['\n']) ++ tail ∧
      splitLines cs = lines.map (· ++ ['\n']) ++ (if tail = [] then [] else [tail]) := by
  obtain ⟨lines, tail, hlines, htail, rfl⟩ := exists_lines cs
  exact ⟨lines, tail, hlines, htail, rfl, splitLines_lines hlines htail⟩

/-! ## Trimming -/

@[simp] theorem isBlank_newline : isBlank '\n' = true := rfl

@[simp] theorem isBlank_return : isBlank '\r' = true := rfl

/-- Trimming leaves a text alone whose first and last characters are both kept. -/
theorem trimBy_eq_self {p : Char → Bool} {cs : List Char}
    (hhead : ∀ c ∈ cs.head?, p c = false) (hlast : ∀ c ∈ cs.getLast?, p c = false) :
    trimBy p cs = cs := by
  have hfront : cs.dropWhile p = cs := by
    cases cs with
    | nil => rfl
    | cons c cs => exact List.dropWhile_cons_of_neg (by simpa using hhead c rfl)
  have hback : cs.reverse.dropWhile p = cs.reverse := by
    cases hrev : cs.reverse with
    | nil => rfl
    | cons c rest =>
      have hc : c ∈ cs.getLast? := by
        rw [← List.head?_reverse, hrev]
        rfl
      exact List.dropWhile_cons_of_neg (by simpa using hlast c hc)
  rw [trimBy, hfront, hback, List.reverse_reverse]

/-- Characters that are all trimmed, added at the end of a text, go with the trimming. -/
theorem trimBy_append_of_forall {p : Char → Bool} (cs : List Char) {ds : List Char}
    (hds : ∀ c ∈ ds, p c = true) :
    trimBy p (cs ++ ds) = trimBy p cs := by
  have hdrop : ds.dropWhile p = [] := by
    rw [← List.append_nil ds, List.dropWhile_append_of_pos hds, List.dropWhile_nil]
  have hrev : ∀ c ∈ ds.reverse, p c = true := fun c hc => hds c (List.mem_reverse.1 hc)
  unfold trimBy
  rw [List.dropWhile_append]
  split
  · -- every character of `cs` is trimmed, so nothing is left of either text
    rename_i hempty
    rw [hdrop, List.isEmpty_iff.1 hempty]
  · rw [List.reverse_append, List.dropWhile_append_of_pos hrev]

/-- Trimming keeps a part of the text. -/
theorem trimBy_sublist (p : Char → Bool) (cs : List Char) : (trimBy p cs).Sublist cs := by
  unfold trimBy
  have h := List.reverse_sublist.2 (List.dropWhile_sublist p (l := (cs.dropWhile p).reverse))
  rw [List.reverse_reverse] at h
  exact h.trans (List.dropWhile_sublist p)

/-- A trimmed text ends in a character that is kept. -/
theorem trimBy_getLast? (p : Char → Bool) (cs : List Char) :
    ∀ c ∈ (trimBy p cs).getLast?, p c = false := by
  intro c hc
  have hkept := List.head?_dropWhile_not p (cs.dropWhile p).reverse
  rw [trimBy, List.getLast?_reverse, Option.mem_def] at hc
  rw [hc] at hkept
  exact hkept

theorem isBlank_of_isBreak {c : Char} (h : isBreak c = true) : isBlank c = true := by
  simp only [isBreak, Bool.or_eq_true, beq_iff_eq] at h
  rcases h with rfl | rfl <;> rfl

/-! ## The lines the record reader is handed -/

/-- A line that the record reader is handed exactly as it is written: not empty, with no
newline in it, not a comment, and with no blank at either end. -/
structure KeptLine (line : List Char) : Prop where
  ne_nil : line ≠ []
  no_newline : '\n' ∉ line
  not_comment : line.head? ≠ some '#'
  head_not_blank : ∀ c ∈ line.head?, isBlank c = false
  last_not_blank : ∀ c ∈ line.getLast?, isBlank c = false

/-- A kept line, with its newline, is neither a bare newline nor a comment. -/
theorem keepsLine_append_newline {line : List Char} (hline : KeptLine line) :
    keepsLine (line ++ ['\n']) = true := by
  obtain ⟨c, rest, rfl⟩ := List.exists_cons_of_ne_nil hline.ne_nil
  have hc : c ≠ '#' := fun h => hline.not_comment (by simp [h])
  simp [keepsLine, hc]

/-- Trimming a kept line with its newline gives the line back. -/
theorem trimBlank_append_newline {line : List Char} (hline : KeptLine line) :
    trimBlank (line ++ ['\n']) = line := by
  have hnewline : ∀ c ∈ ['\n'], isBlank c = true := by simp
  rw [trimBlank, trimBy_append_of_forall line hnewline,
    trimBy_eq_self hline.head_not_blank hline.last_not_blank]

/-- The record reader is handed the kept lines of a text as they are. -/
theorem recordLines_ofList_flatMap {lines : List (List Char)} (h : ∀ l ∈ lines, KeptLine l) :
    recordLines (String.ofList (lines.flatMap (· ++ ['\n']))) = lines := by
  have hkept : ∀ l ∈ lines.map (· ++ ['\n']), keepsLine l = true := by
    intro l hl
    obtain ⟨l', hl', rfl⟩ := List.mem_map.1 hl
    exact keepsLine_append_newline (h l' hl')
  rw [recordLines, String.toList_ofList,
    splitLines_flatMap_newline fun l hl => (h l hl).no_newline,
    List.filter_eq_self.2 hkept, List.map_map]
  calc lines.map (trimBlank ∘ (· ++ ['\n'])) = lines.map id :=
        List.map_congr_left fun l hl => trimBlank_append_newline (h l hl)
    _ = lines := List.map_id lines

end Tabula.Csv
