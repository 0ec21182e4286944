import Mathlib.Data.List.Basic
import Tabula.Proofs.Csv.Lines
import Tabula.Proofs.Csv.Reading

/-!
# Line endings

A text whose lines end in a carriage return and a newline is read as the same text with bare
newlines, except at one kind of line: a line that is nothing but its end.  The cut drops a
line that is only a newline before anything else looks at it, but a carriage return in front
of the newline keeps the line; trimming then leaves it empty, and the record reader reads an
empty line as a record with no fields, unless a quoted field is open across it.

* `splitLines_crlfChars`: the copy is cut where the text is cut, line by line.
* `recordLines_eq_filterMap` and `recordLines_crlfText`: both texts hand the reader the lines
  of `markedLines`, the text with nothing where it has a bare newline, the copy with an empty
  line there.
* `readRecords_go_marked`: a run of the reader over the two line lists, one line at a time,
  keeps them in step: the same failure, or the same records with empty records put in among
  them (`WithEmpties`), none exactly when every bare newline comes inside a quoted field
  (`blanksQuoted`).
* `readTable_crlfText_eq_iff`: the text and its copy read as the same table exactly when
  reading fails, or every bare newline comes inside a quoted field;
  `readTable_crlfText_of_no_bare_newline` is the case of a text with no bare newline.
* `readTable_crlfText_blank_line`: a text where the two differ.
-/

namespace Tabula.Csv

open Tabula.Text

/-! ## Carriage returns before newlines -/

/-- Writes every newline as a carriage return and a newline. -/
def crlfChars (cs : List Char) : List Char :=
  cs.flatMap fun c => if c = '\n' then ['\r', '\n'] else [c]

/-- A text with every newline written as a carriage return and a newline. -/
def crlfText (t : String) : String := String.ofList (crlfChars t.toList)

@[simp] theorem crlfChars_nil : crlfChars [] = [] := rfl

theorem crlfChars_cons (c : Char) (cs : List Char) :
    crlfChars (c :: cs) =
      if c = '\n' then '\r' :: '\n' :: crlfChars cs else c :: crlfChars cs := by
  by_cases hc : c = '\n' <;> simp [crlfChars, hc]

/-- Text with no newline in it is left alone. -/
theorem crlfChars_of_not_mem {cs : List Char} (h : '\n' ∉ cs) : crlfChars cs = cs := by
  induction cs with
  | nil => rfl
  | cons c cs ih =>
    have hc : c ≠ '\n' := fun e => h (e ▸ List.mem_cons_self)
    rw [crlfChars_cons, if_neg hc, ih fun m => h (List.mem_cons_of_mem _ m)]

/-- The newline that ends a line gets a carriage return in front of it. -/
theorem crlfChars_append_newline {body : List Char} (h : '\n' ∉ body) :
    crlfChars (body ++ ['\n']) = body ++ ['\r', '\n'] := by
  have hbody := crlfChars_of_not_mem h
  simp only [crlfChars] at hbody ⊢
  rw [List.flatMap_append, hbody]
  rfl

/-! ## Cutting the copy into lines -/

/-- The copy is cut where the text is cut, each line with its newline rewritten. -/
theorem splitLines_crlfChars (cs : List Char) :
    splitLines (crlfChars cs) = (splitLines cs).map crlfChars := by
  induction cs with
  | nil => rfl
  | cons c cs ih =>
    by_cases hc : c = '\n'
    · subst hc
      simp [crlfChars_cons, splitLines, ih]
    · rw [crlfChars_cons, if_neg hc]
      cases hsplit : splitLines cs with
      | nil => simp [splitLines, hc, ih, hsplit, crlfChars_cons]
      | cons l ls => simp [splitLines, hc, ih, hsplit, crlfChars_cons]

/-- A line of a cut text is a piece with no newline in it, followed by a newline or not. -/
theorem exists_body_of_mem_splitLines {cs line : List Char} (h : line ∈ splitLines cs) :
    ∃ body, '\n' ∉ body ∧ (line = body ++ ['\n'] ∨ line = body) := by
  induction cs generalizing line with
  | nil => cases h
  | cons c cs ih =>
    by_cases hc : c = '\n'
    · subst hc
      rcases List.mem_cons.1 (by simpa [splitLines] using h) with rfl | h
      · exact ⟨[], by simp, .inl rfl⟩
      · exact ih h
    · -- the character opens the first line of the rest, or a line of its own
      cases hsplit : splitLines cs with
      | nil =>
        have hline : line = [c] := by simpa [splitLines, hc, hsplit] using h
        exact ⟨[c], by simp [Ne.symm hc], .inr hline⟩
      | cons l ls =>
        rcases List.mem_cons.1 (by simpa [splitLines, hc, hsplit] using h) with rfl | h
        · obtain ⟨body, hbody, hl⟩ := ih (hsplit ▸ List.mem_cons_self)
          refine ⟨c :: body, by simp [Ne.symm hc, hbody], ?_⟩
          rcases hl with rfl | rfl
          · exact .inl rfl
          · exact .inr rfl
        · exact ih (hsplit ▸ List.mem_cons_of_mem _ h)

/-! ## The lines the reader is handed -/

/-- What one cut line is to the reader: a bare newline (`some none`), a kept line trimmed
(`some (some l)`), or a dropped line (`none`). -/
def markLine (line : List Char) : Option (Option (List Char)) :=
  if line = ['\n'] then some none
  else if keepsLine line then some (some (trimBlank line)) else none

/-- The marked lines of a text, in order. -/
def markedLines (t : String) : List (Option (List Char)) :=
  (splitLines t.toList).filterMap markLine

/-- A line that starts with something other than a newline is kept or dropped whatever
follows it. -/
theorem keepsLine_append {body : List Char} (hne : body ≠ []) (hbody : '\n' ∉ body)
    (rest : List Char) : keepsLine (body ++ rest) = keepsLine body := by
  obtain ⟨c, cs, rfl⟩ := List.exists_cons_of_ne_nil hne
  have hc : (c == '\n') = false := beq_eq_false_iff_ne.2 fun e => hbody (e ▸ List.mem_cons_self)
  simp [keepsLine, hc]

/-- A cut line, carriage return added, is handed to the reader as the line marks it, a bare
newline as an empty line. -/
theorem lineOf_crlfChars {line : List Char}
    (h : ∃ body, '\n' ∉ body ∧ (line = body ++ ['\n'] ∨ line = body)) :
    (if keepsLine (crlfChars line) then some (trimBlank (crlfChars line)) else none) =
      (markLine line).map (·.getD []) := by
  obtain ⟨body, hbody, rfl | rfl⟩ := h
  · by_cases hnil : body = []
    · subst hnil
      decide
    · have hbare : body ++ ['\n'] ≠ ['\n'] := by simp [hnil]
      have hblank : ∀ c ∈ ['\r', '\n'], isBlank c = true := by simp
      have hnewline : ∀ c ∈ ['\n'], isBlank c = true := by simp
      rw [crlfChars_append_newline hbody, markLine, if_neg hbare, keepsLine_append hnil hbody,
        keepsLine_append hnil hbody, trimBlank, trimBlank, trimBy_append_of_forall _ hblank,
        trimBy_append_of_forall _ hnewline]
      split <;> rfl
  · have hbare : line ≠ ['\n'] := fun e => hbody (by simp [e])
    rw [crlfChars_of_not_mem hbody, markLine, if_neg hbare]
    split <;> rfl

/-- The text hands the reader its kept lines and nothing for a bare newline. -/
theorem recordLines_eq_filterMap (t : String) :
    recordLines t = (markedLines t).filterMap id := by
  rw [recordLines, markedLines, List.filterMap_filterMap, ← List.filterMap_eq_map',
    List.filterMap_filter]
  refine List.filterMap_congr fun line _ => ?_
  by_cases hbare : line = ['\n']
  · subst hbare
    rfl
  · by_cases hkeep : keepsLine line <;> simp [markLine, hbare, hkeep]

/-- The copy hands the reader the text's kept lines and an empty line for a bare newline. -/
theorem recordLines_crlfText (t : String) :
    recordLines (crlfText t) = (markedLines t).map (·.getD []) := by
  rw [recordLines, crlfText, String.toList_ofList, splitLines_crlfChars, List.filter_map,
    List.map_map, ← List.filterMap_eq_map', List.filterMap_filter, markedLines,
    List.map_filterMap]
  exact List.filterMap_congr fun line hline =>
    lineOf_crlfChars (exists_body_of_mem_splitLines hline)

/-! ## The reader between lines -/

/-- Where the reader stands between two lines: at the start of a record, or inside a quoted
field that the next line goes on with. -/
def Reader.BetweenLines (r : Reader) : Prop := r = Reader.fresh ∨ r.phase = .inQuoted

/-- The end of a line leaves the reader at the start of a record or inside a quoted field. -/
theorem Reader.step_none_phase {r r' : Reader} (h : r.step ',' '"' none = .ok r') :
    r'.phase = .startRecord ∨ r'.phase = .inQuoted := by
  unfold Reader.step at h
  cases hp : r.phase <;> simp only [hp, Except.ok.injEq] at h <;> subst h <;>
    simp [hp, Reader.save]

/-- After a line the reader is at the start of a record or inside a quoted field. -/
theorem Reader.feedLine_phase {r r' : Reader} {line : List Char}
    (h : r.feedLine ',' '"' line = .ok r') : r'.phase = .startRecord ∨ r'.phase = .inQuoted := by
  rw [Reader.feedLine_eq_feed] at h
  cases hfeed : r.feed line with
  | error e =>
    rw [hfeed] at h
    cases h
  | ok s =>
    rw [hfeed, except_ok_bind] at h
    exact Reader.step_none_phase h

/-- An empty line at the start of a record is a record with no fields. -/
theorem readRecords_go_nil_fresh (lines : List (List Char)) :
    readRecords.go ',' '"' Reader.fresh ([] :: lines) =
      readRecords.go ',' '"' Reader.fresh lines >>= fun recs => pure ([] :: recs) := rfl

/-- An empty line inside a quoted field adds nothing to it. -/
theorem readRecords_go_nil_inQuoted {r : Reader} (hr : r.phase = .inQuoted)
    (lines : List (List Char)) :
    readRecords.go ',' '"' r ([] :: lines) = readRecords.go ',' '"' r lines := by
  have hline : r.feedLine ',' '"' [] = .ok r := by
    rw [Reader.feedLine_eq_feed, Reader.feed_nil, except_ok_bind, Reader.step, hr]
  rw [readRecords.go, hline, except_ok_bind, hr]
  rfl

/-- Whether every bare newline of the marked lines comes while a quoted field is open, read
from the reader `r`; once reading fails the rest does not matter. -/
def blanksQuoted : Reader → List (Option (List Char)) → Bool
  | _, [] => true
  | r, none :: rest => r.phase == .inQuoted && blanksQuoted r rest
  | r, some line :: rest =>
    match r.feedLine ',' '"' line with
    | .error _ => true
    | .ok r' => blanksQuoted (if r'.phase == .startRecord then Reader.fresh else r') rest

/-! ## Records with empty records put in -/

/-- `more` is `records` with records of no fields put in among them. -/
inductive WithEmpties : List (List String) → List (List String) → Prop
  | nil : WithEmpties [] []
  | cons (record : List String) {records more : List (List String)} :
      WithEmpties records more → WithEmpties (record :: records) (record :: more)
  | empty {records more : List (List String)} :
      WithEmpties records more → WithEmpties records ([] :: more)

theorem WithEmpties.refl : ∀ records : List (List String), WithEmpties records records
  | [] => .nil
  | record :: records => .cons record (WithEmpties.refl records)

theorem WithEmpties.sublist {records more : List (List String)} (h : WithEmpties records more) :
    records.Sublist more := by
  induction h with
  | nil => exact List.Sublist.slnil
  | cons record _ ih => exact ih.cons_cons record
  | empty _ ih => exact ih.cons []

/-- How the records read from the copy stand to those read from the text: the same failure, or
the same records with empty records put in, none exactly when `same` holds. -/
def ReadWithEmpties (same : Bool) :
    Except ReadError (List (List String)) → Except ReadError (List (List String)) → Prop
  | .error e, copy => copy = .error e
  | .ok records, copy =>
    ∃ more, copy = .ok more ∧ WithEmpties records more ∧ (more = records ↔ same = true)

theorem ReadWithEmpties.refl (read : Except ReadError (List (List String))) :
    ReadWithEmpties true read read := by
  cases read with
  | error e => rfl
  | ok records => exact ⟨records, rfl, WithEmpties.refl records, iff_of_true rfl rfl⟩

/-- A record read on both sides before the rest keeps the two in step. -/
theorem ReadWithEmpties.cons {same : Bool} {read copy : Except ReadError (List (List String))}
    (h : ReadWithEmpties same read copy) (record : List String) :
    ReadWithEmpties same (read >>= fun recs => pure (record :: recs))
      (copy >>= fun recs => pure (record :: recs)) := by
  cases read with
  | error e =>
    rw [show copy = .error e from h]
    rfl
  | ok records =>
    obtain ⟨more, rfl, hwith, hsame⟩ := h
    refine ⟨record :: more, rfl, hwith.cons record, ?_⟩
    rw [List.cons.injEq, and_iff_right rfl, hsame]

/-- An empty record read on the copy's side alone puts one in. -/
theorem ReadWithEmpties.empty {same : Bool} {read copy : Except ReadError (List (List String))}
    (h : ReadWithEmpties same read copy) :
    ReadWithEmpties false read (copy >>= fun recs => pure ([] :: recs)) := by
  cases read with
  | error e =>
    rw [show copy = .error e from h]
    rfl
  | ok records =>
    obtain ⟨more, rfl, hwith, -⟩ := h
    refine ⟨[] :: more, rfl, hwith.empty, ?_⟩
    -- the copy has one record more than it had, so at least one more than the text
    have hlen : records.length < ([] :: more).length := by
      have := hwith.sublist.length_le
      simp only [List.length_cons]
      omega
    exact iff_of_false (fun e => by rw [e] at hlen; omega) Bool.false_ne_true

/-! ## Reading the two line lists -/

/-- Read from a reader between lines, the text's lines and the copy's lines give the same
failure, or the same records with empty records put in, none exactly when every bare newline
comes inside a quoted field. -/
theorem readRecords_go_marked : ∀ (marked : List (Option (List Char))) {r : Reader},
    r.BetweenLines →
      ReadWithEmpties (blanksQuoted r marked) (readRecords.go ',' '"' r (marked.filterMap id))
        (readRecords.go ',' '"' r (marked.map (·.getD [])))
  | [], _, _ => ReadWithEmpties.refl _
  | none :: marked, r, hr => by
    have htext : (none :: marked).filterMap id = marked.filterMap id := rfl
    rw [htext, List.map_cons, Option.getD_none]
    rcases hr with rfl | hquoted
    · -- at the start of a record the copy reads an empty record the text does not have
      rw [readRecords_go_nil_fresh]
      exact (readRecords_go_marked marked (.inl rfl)).empty
    · -- inside a quoted field the empty line adds nothing
      have hsame : blanksQuoted r (none :: marked) = blanksQuoted r marked := by
        simp [blanksQuoted, hquoted]
      rw [readRecords_go_nil_inQuoted hquoted, hsame]
      exact readRecords_go_marked marked (.inr hquoted)
  | some line :: marked, r, _ => by
    have htext : (some line :: marked).filterMap id = line :: marked.filterMap id := rfl
    rw [htext, List.map_cons, Option.getD_some]
    cases hline : r.feedLine ',' '"' line with
    | error e =>
      have hsame : blanksQuoted r (some line :: marked) = true := by
        simp [blanksQuoted, hline]
      rw [hsame]
      simp only [readRecords.go, hline]
      rfl
    | ok r' =>
      -- both sides feed the same line, and go on from the same reader
      by_cases hend : r'.phase = .startRecord
      · have hsame : blanksQuoted r (some line :: marked) = blanksQuoted Reader.fresh marked := by
          simp [blanksQuoted, hline, hend]
        rw [hsame]
        simp only [readRecords.go, hline, except_ok_bind, hend, Phase.beq_self, if_true]
        exact (readRecords_go_marked marked (.inl rfl)).cons _
      · have hquoted : r'.phase = .inQuoted := (Reader.feedLine_phase hline).resolve_left hend
        have hnot : (r'.phase == .startRecord) = false := by rw [hquoted]; rfl
        have hsame : blanksQuoted r (some line :: marked) = blanksQuoted r' marked := by
          simp [blanksQuoted, hline, hnot]
        rw [hsame]
        simp only [readRecords.go, hline, except_ok_bind, hnot, Bool.false_eq_true, if_false]
        exact readRecords_go_marked marked (.inr hquoted)

/-- The records of a text and of its copy: the same failure, or the same records with empty
records put in, none exactly when every bare newline comes inside a quoted field. -/
theorem readRecords_crlfText (t : String) :
    ReadWithEmpties (blanksQuoted Reader.fresh (markedLines t))
      (readRecords ',' '"' (recordLines t)) (readRecords ',' '"' (recordLines (crlfText t))) := by
  rw [recordLines_eq_filterMap, recordLines_crlfText]
  exact readRecords_go_marked _ (.inl rfl)

/-! ## Tables -/

/-- Two texts whose records differ only by empty records put in read as the same table exactly
when none were put in: a table has a row for each record after the header. -/
theorem readTable_eq_iff_of_withEmpties (trimHeader : Bool) {t t' : String}
    {records more : List (List String)} (hread : readRecords ',' '"' (recordLines t) = .ok records)
    (hread' : readRecords ',' '"' (recordLines t') = .ok more) (hwith : WithEmpties records more) :
    readTable trimHeader t' = readTable trimHeader t ↔ more = records := by
  constructor
  · intro htable
    unfold readTable at htable
    rw [hread, hread'] at htable
    cases records with
    | nil =>
      cases more with
      | nil => rfl
      | cons _ _ => simp at htable
    | cons first rows =>
      cases more with
      | nil => simp at htable
      | cons first' rows' =>
        simp only [Except.ok.injEq, Table.mk.injEq] at htable
        have hlen : rows'.length = rows.length := by
          simpa using congrArg List.length htable.2
        exact (hwith.sublist.eq_of_length (by simp [hlen])).symm
  · intro hsame
    unfold readTable
    rw [hread, hread', hsame]

/-- A text and its copy with carriage returns read as the same table exactly when reading the
text fails, or every bare newline of the text comes inside a quoted field. -/
theorem readTable_crlfText_eq_iff (trimHeader : Bool) (t : String) :
    readTable trimHeader (crlfText t) = readTable trimHeader t ↔
      (∃ e, readRecords ',' '"' (recordLines t) = .error e) ∨
        blanksQuoted Reader.fresh (markedLines t) = true := by
  have hrel := readRecords_crlfText t
  cases hread : readRecords ',' '"' (recordLines t) with
  | error e =>
    rw [hread] at hrel
    have hcopy : readRecords ',' '"' (recordLines (crlfText t)) = .error e := hrel
    unfold readTable
    rw [hread, hcopy]
    exact iff_of_true rfl (.inl ⟨e, rfl⟩)
  | ok records =>
    rw [hread] at hrel
    obtain ⟨more, hcopy, hwith, hsame⟩ := hrel
    have hok : ¬∃ e, (Except.ok records : Except ReadError (List (List String))) = .error e := by
      simp
    rw [or_iff_right hok, ← hsame]
    exact readTable_eq_iff_of_withEmpties trimHeader hread hcopy hwith

/-- With no bare newline in the text, the marked lines hold none. -/
theorem blanksQuoted_of_forall_some : ∀ (marked : List (Option (List Char))) (r : Reader),
    none ∉ marked → blanksQuoted r marked = true
  | [], _, _ => rfl
  | none :: _, _, h => absurd List.mem_cons_self h
  | some line :: marked, r, h => by
    have hrest : none ∉ marked := fun m => h (List.mem_cons_of_mem _ m)
    cases hline : r.feedLine ',' '"' line with
    | error e => simp [blanksQuoted, hline]
    | ok r' => simp [blanksQuoted, hline, blanksQuoted_of_forall_some marked _ hrest]

/-- A text with no line that is only a newline reads as its copy with carriage returns. -/
theorem readTable_crlfText_of_no_bare_newline (trimHeader : Bool) {t : String}
    (h : ['\n'] ∉ splitLines t.toList) :
    readTable trimHeader (crlfText t) = readTable trimHeader t := by
  have hnone : none ∉ markedLines t := by
    intro hmem
    obtain ⟨line, hline, hmark⟩ := List.mem_filterMap.1 hmem
    have hbare : line = ['\n'] := by
      by_cases hb : line = ['\n']
      · exact hb
      · by_cases hk : keepsLine line <;> simp [markLine, hb, hk] at hmark
    exact h (hbare ▸ hline)
  exact (readTable_crlfText_eq_iff trimHeader t).2
    (.inr (blanksQuoted_of_forall_some _ _ hnone))

/-- A bare newline between the header and a row: the text drops it, the copy reads it as a
row with no cells. -/
theorem readTable_crlfText_blank_line :
    readTable false (crlfText "a\n\nx\n") = .ok ⟨["a"], [[], [("a", "x")]]⟩ ∧
      readTable false "a\n\nx\n" = .ok ⟨["a"], [[("a", "x")]]⟩ :=
  ⟨rfl, rfl⟩

end Tabula.Csv
