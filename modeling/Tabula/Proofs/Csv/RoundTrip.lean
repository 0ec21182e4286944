import Tabula.Proofs.Csv.Lines
import Tabula.Proofs.Csv.Reading
import Tabula.Proofs.Csv.Rows

/-!
# Reading a written table

The writer puts each record on a line of its own, quoting a field that holds the delimiter,
the quote or a newline, doubling the quotes inside it, and writing a record of one empty field
as two quotes.  The reader keeps only lines that are not bare newlines or comments, trims them,
and reads the records; the first record is the header and each later record becomes a row.

The main statement, `readTable_writeRecords`, says that reading gives back exactly what was
written: for a header of distinct names and rows of the header's width, whose cells hold no
line break, have no blank at either end and fit the reader's field limit, and whose lines do
not start with `#`, the table read from the written text is the header and the rows zipped
with it.  Each condition guards a way of losing data: a `#` at the start of a line makes it a
comment, blanks at the ends of a line or cell are trimmed away, a line break splits or ends a
record, and a repeated name keeps only one of its cells.

The proof runs through three layers.

* The written text is its lines, each followed by a newline (`Dialect.writeRecords_toList`),
  and every line is a `KeptLine` (`keptLine_recordText`), so the reader is handed the lines
  as they are (`recordLines_ofList_flatMap`).
* Each line reads as the record it was written from (`feedLine_recordText`), so the text reads
  as the records (`readRecords_map`).
* Trimming changes no cell, and the rows of a header of distinct names are zips
  (`rowOf_of_nodup`).
-/

namespace Tabula.Csv

open Tabula.Text

/-! ## Written lines -/

/-- The text of a record without its line end. -/
def Dialect.recordText (d : Dialect) (fields : List (List Char)) : List Char :=
  match fields with
  | [[]] => [d.quote, d.quote]
  | _ => joinWith d.delimiter (fields.map d.field)

theorem Dialect.record_eq (d : Dialect) :
    ∀ fields : List (List Char), d.record fields = d.recordText fields ++ d.lineEnd
  | [[]] => rfl
  | [] => rfl
  | [] :: _ :: _ => rfl
  | (_ :: _) :: _ => rfl

/-- Written records are their lines, each followed by the line end. -/
theorem Dialect.writeRecords_toList (d : Dialect) (records : List (List String)) :
    (d.writeRecords records).toList =
      (records.map fun r => d.recordText (r.map String.toList)).flatMap (· ++ d.lineEnd) := by
  simp [Dialect.writeRecords, Dialect.record_eq, List.flatMap_map]

/-- A character of a joined text is a separator or a character of one of the pieces. -/
theorem mem_joinWith {sep c : Char} {xs : List (List Char)} (h : c ∈ joinWith sep xs) :
    c = sep ∨ ∃ x ∈ xs, c ∈ x := by
  induction xs with
  | nil => simp [joinWith] at h
  | cons x rest ih =>
    cases rest with
    | nil => exact Or.inr ⟨x, List.mem_cons_self, h⟩
    | cons y rest =>
      rw [joinWith_cons_cons] at h
      rcases List.mem_append.1 h with hx | hrest
      · exact Or.inr ⟨x, List.mem_cons_self, hx⟩
      · rcases List.mem_cons.1 hrest with hsep | hjoin
        · exact Or.inl hsep
        · rcases ih hjoin with hsep | ⟨z, hz, hcz⟩
          · exact Or.inl hsep
          · exact Or.inr ⟨z, List.mem_cons_of_mem _ hz, hcz⟩

/-- A character of a field with its quotes doubled is a character of the field. -/
theorem mem_doubleQuotes {cs : List Char} {c : Char}
    (h : c ∈ Dialect.standard.doubleQuotes cs) : c ∈ cs := by
  induction cs with
  | nil => simp [Dialect.doubleQuotes] at h
  | cons d cs ih =>
    rw [doubleQuotes_cons] at h
    rcases List.mem_append.1 h with hd | hrest
    · have hcd : c = d := by
        by_cases hq : d = '"'
        · simp only [hq, if_true, List.mem_cons, List.not_mem_nil, or_false, or_self] at hd
          exact hd.trans hq.symm
        · simpa [hq] using hd
      exact hcd ▸ List.mem_cons_self
    · exact List.mem_cons_of_mem _ (ih hrest)

/-- A character of a written field is a quote or a character of the field. -/
theorem mem_field {cs : List Char} {c : Char} (h : c ∈ Dialect.standard.field cs) :
    c = '"' ∨ c ∈ cs := by
  unfold Dialect.field at h
  split at h
  · simp only [Dialect.standard, List.cons_append, List.mem_cons, List.mem_append,
      List.not_mem_nil, or_false] at h
    rcases h with hq | hbody | hq
    · exact Or.inl hq
    · exact Or.inr (mem_doubleQuotes hbody)
    · exact Or.inl hq
  · exact Or.inr h

/-- A written field starts with a quote or with the field's first character. -/
theorem head?_field (cs : List Char) :
    ∀ c ∈ (Dialect.standard.field cs).head?, c = '"' ∨ c ∈ cs.head? := by
  intro c hc
  unfold Dialect.field at hc
  split at hc
  · simp only [Dialect.standard, List.cons_append, List.head?_cons, Option.mem_def,
      Option.some.injEq] at hc
    exact Or.inl hc.symm
  · exact Or.inr hc

/-- A written field ends with a quote or with the field's last character. -/
theorem getLast?_field (cs : List Char) :
    ∀ c ∈ (Dialect.standard.field cs).getLast?, c = '"' ∨ c ∈ cs.getLast? := by
  intro c hc
  unfold Dialect.field at hc
  split at hc
  · rw [List.getLast?_concat, Option.mem_def, Option.some.injEq] at hc
    exact Or.inl hc.symm
  · exact Or.inr hc

/-- A joined text starts with its first piece, or with the separator when that piece is
empty. -/
theorem head?_joinWith_cons {sep : Char} (x : List Char) (rest : List (List Char)) :
    ∀ c ∈ (joinWith sep (x :: rest)).head?, c ∈ x.head? ∨ c = sep := by
  intro c hc
  cases rest with
  | nil => exact Or.inl hc
  | cons y rest =>
    rw [joinWith_cons_cons] at hc
    cases x with
    | nil => exact Or.inr (by simpa using hc.symm)
    | cons d x => exact Or.inl (by simpa using hc)

/-- A joined text ends with its last piece, or with the separator when that piece is empty. -/
theorem getLast?_joinWith {sep : Char} (xs : List (List Char)) :
    ∀ c ∈ (joinWith sep xs).getLast?, c = sep ∨ ∃ x ∈ xs.getLast?, c ∈ x.getLast? := by
  induction xs with
  | nil => simp [joinWith]
  | cons x rest ih =>
    intro c hc
    cases rest with
    | nil => exact Or.inr ⟨x, rfl, hc⟩
    | cons y rest =>
      rw [joinWith_cons_cons, List.getLast?_append, List.getLast?_cons] at hc
      simp only [Option.some_or, Option.mem_def, Option.some.injEq] at hc
      cases hlast : (joinWith sep (y :: rest)).getLast? with
      | none =>
        simp only [hlast, Option.getD_none] at hc
        exact Or.inl hc.symm
      | some d =>
        simp only [hlast, Option.getD_some] at hc
        rw [← hc]
        rcases ih d hlast with hsep | ⟨z, hz, hcz⟩
        · exact Or.inl hsep
        · exact Or.inr ⟨z, by simpa using hz, hcz⟩

/-! ## The lines of a written table -/

theorem recordText_ne_nil {fields : List (List Char)} (hne : fields ≠ []) :
    Dialect.standard.recordText fields ≠ [] := by
  unfold Dialect.recordText
  split
  · simp
  · rename_i hsingle
    obtain ⟨f, rest, rfl⟩ := List.exists_cons_of_ne_nil hne
    cases rest with
    | nil =>
      have hf : f ≠ [] := fun h => hsingle (h ▸ rfl)
      show Dialect.standard.field f ≠ []
      unfold Dialect.field
      split
      · simp
      · exact hf
    | cons g rest => simp [joinWith_cons_cons]

/-- A character of a written line is a quote, a delimiter, or a character of a field. -/
theorem mem_recordText {fields : List (List Char)} {c : Char}
    (h : c ∈ Dialect.standard.recordText fields) : c = '"' ∨ c = ',' ∨ ∃ f ∈ fields, c ∈ f := by
  unfold Dialect.recordText at h
  split at h
  · left
    simpa [Dialect.standard] using h
  · rcases mem_joinWith h with hsep | ⟨x, hx, hcx⟩
    · exact Or.inr (Or.inl hsep)
    · obtain ⟨f, hf, rfl⟩ := List.mem_map.1 hx
      rcases mem_field hcx with hq | hcf
      · exact Or.inl hq
      · exact Or.inr (Or.inr ⟨f, hf, hcf⟩)

/-- A written line starts with a quote, a delimiter, or the first field's first character. -/
theorem head?_recordText (f : List Char) (rest : List (List Char)) :
    ∀ c ∈ (Dialect.standard.recordText (f :: rest)).head?, c = '"' ∨ c = ',' ∨ c ∈ f.head? := by
  intro c hc
  unfold Dialect.recordText at hc
  split at hc
  · left
    simpa [Dialect.standard] using hc.symm
  · rw [List.map_cons] at hc
    rcases head?_joinWith_cons _ _ c hc with hhead | hsep
    · rcases head?_field f c hhead with hq | hf
      · exact Or.inl hq
      · exact Or.inr (Or.inr hf)
    · exact Or.inr (Or.inl hsep)

/-- A written line ends with a quote, a delimiter, or the last field's last character. -/
theorem getLast?_recordText (fields : List (List Char)) :
    ∀ c ∈ (Dialect.standard.recordText fields).getLast?,
      c = '"' ∨ c = ',' ∨ ∃ f ∈ fields.getLast?, c ∈ f.getLast? := by
  intro c hc
  unfold Dialect.recordText at hc
  split at hc
  · left
    simpa [Dialect.standard] using hc.symm
  · rcases getLast?_joinWith _ c hc with hsep | ⟨x, hx, hcx⟩
    · exact Or.inr (Or.inl hsep)
    · rw [List.getLast?_map, Option.mem_def, Option.map_eq_some_iff] at hx
      obtain ⟨f, hf, rfl⟩ := hx
      rcases getLast?_field f c hcx with hq | hcf
      · exact Or.inl hq
      · exact Or.inr (Or.inr ⟨f, hf, hcf⟩)

/-- A written line, read from a fresh reader, is the record of its fields. -/
theorem feedLine_recordText {fields : List (List Char)} (hne : fields ≠ [])
    (hcells : ∀ cs ∈ fields, (∀ c ∈ cs, isBreak c = false) ∧ cs.length ≤ fieldLimit) :
    Reader.fresh.feedLine ',' '"' (Dialect.standard.recordText fields) =
      .ok ⟨.startRecord, (fields.map String.ofList).reverse, [], 0⟩ := by
  unfold Dialect.recordText
  split
  · rfl
  · rename_i hsingle
    have hline := @Reader.feedLine_joinWith .startRecord (Or.inl rfl) [] fields hne hcells
      fun _ => hsingle
    rw [List.append_nil] at hline
    exact hline

/-! ## Cells that a written table carries -/

/-- A cell that a written table carries through reading unchanged: no line break in it, no
blank at either end, and no longer than the reader's field limit. -/
structure SafeCell (s : String) : Prop where
  no_newline : '\n' ∉ s.toList
  no_return : '\r' ∉ s.toList
  head_not_blank : ∀ c ∈ s.toList.head?, isBlank c = false
  last_not_blank : ∀ c ∈ s.toList.getLast?, isBlank c = false
  short : s.length ≤ fieldLimit

/-- Safety is decided through `Option.all`, so that no decision ranges over all characters. -/
instance (s : String) : Decidable (SafeCell s) :=
  decidable_of_iff ('\n' ∉ s.toList ∧ '\r' ∉ s.toList ∧
      s.toList.head?.all (fun c => !isBlank c) = true ∧
      s.toList.getLast?.all (fun c => !isBlank c) = true ∧ s.length ≤ fieldLimit) (by
    simp only [Option.all_eq_true, Bool.not_eq_eq_eq_not, Bool.not_true]
    exact ⟨fun ⟨h1, h2, h3, h4, h5⟩ => ⟨h1, h2, h3, h4, h5⟩,
      fun ⟨h1, h2, h3, h4, h5⟩ => ⟨h1, h2, h3, h4, h5⟩⟩)

theorem isAsciiBlank_eq_false {c : Char} (h : isBlank c = false) : isAsciiBlank c = false :=
  Bool.eq_false_iff.2 fun hascii => by simp [isAsciiBlank_isBlank hascii] at h

theorem SafeCell.trimBlank_eq {s : String} (hs : SafeCell s) : trimBlank s.toList = s.toList :=
  trimBy_eq_self hs.head_not_blank hs.last_not_blank

theorem SafeCell.trimAsciiBlank_eq {s : String} (hs : SafeCell s) :
    trimAsciiBlank s.toList = s.toList :=
  trimBy_eq_self (fun c hc => isAsciiBlank_eq_false (hs.head_not_blank c hc))
    (fun c hc => isAsciiBlank_eq_false (hs.last_not_blank c hc))

/-- A safe cell has no line break and fits the field limit, as the reader needs. -/
theorem SafeCell.readable {s : String} (hs : SafeCell s) :
    (∀ c ∈ s.toList, isBreak c = false) ∧ s.toList.length ≤ fieldLimit := by
  refine ⟨fun c hc => ?_, String.length_toList ▸ hs.short⟩
  have hn : c ≠ '\n' := fun h => hs.no_newline (h ▸ hc)
  have hr : c ≠ '\r' := fun h => hs.no_return (h ▸ hc)
  simp [isBreak, hn, hr]

/-- The line of a record of safe cells, whose first cell starts with no `#`, is handed to the
reader as it is written. -/
theorem keptLine_recordText {record : List String} (hne : record ≠ [])
    (hcells : ∀ s ∈ record, SafeCell s)
    (hcomment : ∀ s ∈ record.head?, s.toList.head? ≠ some '#') :
    KeptLine (Dialect.standard.recordText (record.map String.toList)) := by
  obtain ⟨s, rest, rfl⟩ := List.exists_cons_of_ne_nil hne
  have hs : SafeCell s := hcells s List.mem_cons_self
  refine ⟨recordText_ne_nil (by simp), ?_, ?_, ?_, ?_⟩
  · intro hmem
    rcases mem_recordText hmem with h | h | ⟨f, hf, hnf⟩
    · exact absurd h (by decide)
    · exact absurd h (by decide)
    · obtain ⟨t, ht, rfl⟩ := List.mem_map.1 hf
      exact (hcells t ht).no_newline hnf
  · intro hhash
    rcases head?_recordText _ _ '#' hhash with h | h | h
    · exact absurd h (by decide)
    · exact absurd h (by decide)
    · exact hcomment s rfl h
  · intro c hc
    rcases head?_recordText _ _ c hc with rfl | rfl | h
    · decide
    · decide
    · exact hs.head_not_blank c h
  · intro c hc
    rcases getLast?_recordText _ c hc with rfl | rfl | ⟨f, hf, hcf⟩
    · decide
    · decide
    · rw [List.getLast?_map, Option.mem_def, Option.map_eq_some_iff] at hf
      obtain ⟨t, ht, rfl⟩ := hf
      exact (hcells t (List.mem_of_getLast? ht)).last_not_blank c hcf

/-! ## Reading a written table -/

/-- Reading a written table gives back its header and its rows.  The header's names are
pairwise distinct, every row has one cell per name, every cell is safe, and no line starts
with `#`.  This holds whether or not the header is trimmed as it is read. -/
theorem readTable_writeRecords (trimHeader : Bool) {header : List String}
    {rows : List (List String)} (hheader : header ≠ []) (hnodup : header.Nodup)
    (hwidth : ∀ r ∈ rows, r.length = header.length)
    (hcells : ∀ r ∈ header :: rows, ∀ s ∈ r, SafeCell s)
    (hcomment : ∀ r ∈ header :: rows, ∀ s ∈ r.head?, s.toList.head? ≠ some '#') :
    readTable trimHeader (Dialect.standard.writeRecords (header :: rows)) =
      .ok ⟨header, rows.map header.zip⟩ := by
  have hne : ∀ r ∈ header :: rows, r ≠ [] := by
    intro r hr hnil
    rcases List.mem_cons.1 hr with rfl | hrow
    · exact hheader hnil
    · have hlen := hwidth r hrow
      rw [hnil] at hlen
      exact hheader (List.length_eq_zero_iff.1 hlen.symm)
  -- the reader is handed the written lines as they are
  have hkept : ∀ l ∈ (header :: rows).map fun r =>
      Dialect.standard.recordText (r.map String.toList), KeptLine l := by
    intro l hl
    obtain ⟨r, hr, rfl⟩ := List.mem_map.1 hl
    exact keptLine_recordText (hne r hr) (hcells r hr) (hcomment r hr)
  have hlines : recordLines (Dialect.standard.writeRecords (header :: rows)) =
      (header :: rows).map fun r => Dialect.standard.recordText (r.map String.toList) := by
    rw [← @String.ofList_toList (Dialect.standard.writeRecords (header :: rows)),
      Dialect.writeRecords_toList]
    exact recordLines_ofList_flatMap hkept
  -- and reads each line as the record it was written from
  have hread : readRecords ',' '"'
      ((header :: rows).map fun r => Dialect.standard.recordText (r.map String.toList)) =
        .ok ((header :: rows).map id) := by
    refine readRecords_map _ _ _ fun r hr => ?_
    have hcellsr : ∀ cs ∈ r.map String.toList,
        (∀ c ∈ cs, isBreak c = false) ∧ cs.length ≤ fieldLimit := by
      intro cs hcs
      obtain ⟨s, hs, rfl⟩ := List.mem_map.1 hcs
      exact (hcells r hr s hs).readable
    rw [feedLine_recordText (by simpa using hne r hr) hcellsr, List.map_map]
    simp
  -- trimming changes no name and no cell
  have htrimmed : header.map (fun h => String.ofList (trimBlank h.toList)) = header := by
    calc header.map (fun h => String.ofList (trimBlank h.toList)) = header.map id :=
          List.map_congr_left fun h hh => by
            simp [(hcells header List.mem_cons_self h hh).trimBlank_eq]
      _ = header := List.map_id header
  have hrows : rows.map (rowOf header) = rows.map header.zip := by
    refine List.map_congr_left fun r hr => ?_
    have hclean : r.map trimCell = r := by
      calc r.map trimCell = r.map id :=
            List.map_congr_left fun v hv => by
              simp [trimCell, (hcells r (List.mem_cons_of_mem _ hr) v hv).trimAsciiBlank_eq]
        _ = r := List.map_id r
    rw [rowOf_of_nodup hnodup, hclean]
  unfold readTable
  rw [hlines, hread, List.map_id]
  cases trimHeader
  · simp only [Bool.false_eq_true, if_false, hrows]
  · simp only [if_true, htrimmed, hrows]

/-- A table with a cell that needs quotes, a cell with quotes inside and an empty first cell
reads back as it was written. -/
theorem readTable_writeRecords_quoted :
    ["name", "note"] ≠ [] ∧ ["name", "note"].Nodup ∧
      (∀ r ∈ [["a,b", "say \"hi\""], ["", "x"]], r.length = ["name", "note"].length) ∧
      (∀ r ∈ [["name", "note"], ["a,b", "say \"hi\""], ["", "x"]], ∀ s ∈ r, SafeCell s) ∧
      (∀ r ∈ [["name", "note"], ["a,b", "say \"hi\""], ["", "x"]], ∀ s ∈ r.head?,
        s.toList.head? ≠ some '#') ∧
      readTable true (Dialect.standard.writeRecords
          [["name", "note"], ["a,b", "say \"hi\""], ["", "x"]]) =
        .ok ⟨["name", "note"], [["a,b", "say \"hi\""], ["", "x"]].map ["name", "note"].zip⟩ :=
  ⟨by decide, by decide, by decide, by decide, by decide,
    readTable_writeRecords true (by decide) (by decide) (by decide) (by decide) (by decide)⟩

end Tabula.Csv
