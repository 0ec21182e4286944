import Tabula.Proofs.Csv.LineEnds

/-!
# Texts that fail to read

Reading a table fails in two ways and in no other. It finds no header when no line of the text
is kept, every line being a bare newline or a comment. It fails on the records when the kept
lines, trimmed, meet a fault (`ReadFault`): a carriage return read outside quotes, or a field,
grown across lines while a quote is open, that would become longer than `fieldLimit`. Every
other text is read, an open quote at the end included.

* One step of the reader fails in two ways (`Reader.step_eq_error`): after a line break read
  outside quotes, a character that is no line break; and a character that the field takes
  (`Phase.takes`) when the field is full. The end of a line never fails
  (`Reader.step_none_ok`).
* A run fails at its first failing step (`Reader.feed_eq_error`,
  `Reader.feedLines_eq_error`), and a run that reaches a failing step fails
  (`Reader.feedLines_error_of_feed`). `Reader.feedLines` is the run over lines that
  `readRecords` makes, and fails exactly when it does (`readRecords_go_eq_error`).
* The lines the reader is handed hold no newline and end in no line break
  (`handedLines_recordLines`). So a carriage return outside quotes always meets a later
  character that is no line break, and the only way to stand after a line break is to have
  read a carriage return outside quotes (`Reader.feed_enters_afterBreak`); hence
  `readRecords_eq_error_iff`.
* Once there is a line, reading gives a record at least (`readRecords_eq_nil_iff`).
* `readTable_outcome` puts these together.
-/

namespace Tabula.Csv

open Tabula.Text

/-! ## Steps that fail -/

/-- The characters the reader takes into the field it is reading, phase by phase: at the start
of a field anything but a line break, the quote and the delimiter; in an unquoted field anything
but a line break and the delimiter; inside quotes anything but the quote; after a quote inside
quotes a second quote, or anything but the delimiter and a line break. -/
def Phase.takes : Phase → Char → Bool
  | .startRecord, c | .startField, c => !isBreak c && c != '"' && c != ','
  | .inField, c => !isBreak c && c != ','
  | .inQuoted, c => c != '"'
  | .quoteInQuoted, c => c == '"' || (c != ',' && !isBreak c)
  | .afterBreak, _ => false

/-- Adding a character fails exactly when the field is full. -/
theorem Reader.add_eq_error {r : Reader} {c : Char} {p : Phase} {e : ReadError} :
    r.add c p = .error e ↔ fieldLimit ≤ r.fieldLength ∧ e = .fieldTooLarge fieldLimit := by
  unfold Reader.add
  split
  · simp_all [eq_comm]
  · simp only [reduceCtorEq, false_iff, not_and]
    omega

/-- A character fails in two ways only: after a line break read outside quotes, anything but
another line break; and a character that the field takes, when the field already holds as many
characters as the limit allows. -/
theorem Reader.step_eq_error {r : Reader} {c : Char} {e : ReadError} :
    r.step ',' '"' (some c) = .error e ↔
      (r.phase = .afterBreak ∧ isBreak c = false ∧ e = .newlineInField) ∨
      (r.phase.takes c = true ∧ fieldLimit ≤ r.fieldLength ∧ e = .fieldTooLarge fieldLimit) := by
  obtain ⟨p, fields, field, n⟩ := r
  -- each phase, against the classes of the character: line break, quote, delimiter
  cases p <;> by_cases hb : isBreak c <;> by_cases hq : c = '"' <;> by_cases hd : c = ',' <;>
    simp +decide [Reader.step, Phase.takes, Reader.add_eq_error, hb, hq, hd] <;> exact eq_comm

/-- The end of a line never fails. -/
theorem Reader.step_none_ok (r : Reader) : ∃ r', r.step ',' '"' none = .ok r' := by
  obtain ⟨p, fields, field, n⟩ := r
  cases p <;> exact ⟨_, rfl⟩

/-- The reader comes to stand after a line break only on a line break read outside quotes, or
when it stood there already. -/
theorem Reader.step_afterBreak {r r' : Reader} {c : Char} (h : r.step ',' '"' (some c) = .ok r')
    (hr' : r'.phase = .afterBreak) :
    r.phase = .afterBreak ∨ (isBreak c = true ∧ r.phase ≠ .inQuoted) := by
  obtain ⟨p, fields, field, n⟩ := r
  -- each branch of the step names the phase it goes to; only those for a line break read
  -- outside quotes go to the phase after a line break
  cases p <;> by_cases hb : isBreak c <;> by_cases hq : c = '"' <;> by_cases hd : c = ',' <;>
    simp_all +decide [Reader.step, Reader.add, Reader.save, @eq_comm _ _ r'] <;>
    split at h <;> simp_all [@eq_comm _ _ r']

/-- A line break read outside quotes leaves the reader after a line break. -/
theorem Reader.step_break {r : Reader} {c : Char} (hc : isBreak c = true)
    (hr : r.phase ≠ .inQuoted) :
    ∃ r', r.step ',' '"' (some c) = .ok r' ∧ r'.phase = .afterBreak := by
  have hc' : c = '\n' ∨ c = '\r' := by simpa [isBreak] using hc
  obtain ⟨p, fields, field, n⟩ := r
  rcases hc' with rfl | rfl <;> cases p <;> first | exact absurd rfl hr | exact ⟨_, rfl, rfl⟩

/-- After a line break read outside quotes, the first character that is no line break fails. -/
theorem Reader.feed_afterBreak {r : Reader} (hr : r.phase = .afterBreak) {cs : List Char}
    (hcs : ∃ c ∈ cs, isBreak c = false) : r.feed cs = .error .newlineInField := by
  induction cs with
  | nil =>
    obtain ⟨c, hc, -⟩ := hcs
    cases hc
  | cons c cs ih =>
    rw [Reader.feed_cons]
    cases hb : isBreak c
    · rw [Reader.step_eq_error.2 (.inl ⟨hr, hb, rfl⟩)]
      rfl
    · -- another line break leaves the reader where it stands
      have hstep : r.step ',' '"' (some c) = .ok r := by
        obtain ⟨p, fields, field, n⟩ := r
        subst hr
        simp [Reader.step, hb]
      have hrest : ∃ c ∈ cs, isBreak c = false := by
        obtain ⟨d, hd, hdb⟩ := hcs
        rcases List.mem_cons.1 hd with rfl | hd
        · rw [hb] at hdb
          cases hdb
        · exact ⟨d, hd, hdb⟩
      rw [hstep, except_ok_bind, ih hrest]

/-- A run that starts elsewhere and ends after a line break has read a line break outside
quotes on its way. -/
theorem Reader.feed_enters_afterBreak {r s : Reader} {cs : List Char} (h : r.feed cs = .ok s)
    (hr : r.phase ≠ .afterBreak) (hs : s.phase = .afterBreak) :
    ∃ pre c rest t, cs = pre ++ c :: rest ∧ r.feed pre = .ok t ∧ isBreak c = true ∧
      t.phase ≠ .inQuoted := by
  induction cs generalizing r with
  | nil =>
    obtain rfl : r = s := Except.ok.inj h
    exact absurd hs hr
  | cons c cs ih =>
    rw [Reader.feed_cons] at h
    cases hstep : r.step ',' '"' (some c) with
    | error e =>
      rw [hstep] at h
      cases h
    | ok r₁ =>
      rw [hstep, except_ok_bind] at h
      by_cases h₁ : r₁.phase = .afterBreak
      · -- this character put the reader after a line break
        obtain hr' | ⟨hb, hq⟩ := Reader.step_afterBreak hstep h₁
        · exact absurd hr' hr
        · exact ⟨[], c, cs, r, rfl, rfl, hb, hq⟩
      · obtain ⟨pre, d, rest, t, rfl, hpre, hd, ht⟩ := ih h h₁
        exact ⟨c :: pre, d, rest, t, rfl,
          by rw [Reader.feed_cons, hstep, except_ok_bind, hpre], hd, ht⟩

/-- A run over characters fails at its first failing step. -/
theorem Reader.feed_eq_error {r : Reader} {cs : List Char} {e : ReadError}
    (h : r.feed cs = .error e) :
    ∃ pre c rest s, cs = pre ++ c :: rest ∧ r.feed pre = .ok s ∧
      s.step ',' '"' (some c) = .error e := by
  induction cs generalizing r with
  | nil => cases h
  | cons c cs ih =>
    rw [Reader.feed_cons] at h
    cases hstep : r.step ',' '"' (some c) with
    | error e' =>
      rw [hstep] at h
      obtain rfl : e' = e := Except.error.inj h
      exact ⟨[], c, cs, r, rfl, rfl, hstep⟩
    | ok r₁ =>
      rw [hstep, except_ok_bind] at h
      obtain ⟨pre, d, rest, s, rfl, hpre, hd⟩ := ih h
      exact ⟨c :: pre, d, rest, s, rfl, by rw [Reader.feed_cons, hstep, except_ok_bind, hpre], hd⟩

/-! ## Runs over lines -/

/-- The reader's run over whole lines, as `readRecords` makes it: a line that ends a record is
followed by a fresh reader. -/
def Reader.feedLines (r : Reader) : List (List Char) → Except ReadError Reader
  | [] => .ok r
  | line :: rest => do
    let r ← r.feedLine ',' '"' line
    (if r.phase == .startRecord then Reader.fresh else r).feedLines rest

@[simp] theorem Reader.feedLines_nil (r : Reader) : r.feedLines [] = .ok r := rfl

theorem Reader.feedLines_cons (r : Reader) (line : List Char) (rest : List (List Char)) :
    r.feedLines (line :: rest) = r.feedLine ',' '"' line >>= fun r =>
      (if r.phase == .startRecord then Reader.fresh else r).feedLines rest := rfl

theorem Reader.feedLines_append (r : Reader) (xs ys : List (List Char)) :
    r.feedLines (xs ++ ys) = r.feedLines xs >>= fun r => r.feedLines ys := by
  induction xs generalizing r with
  | nil => rfl
  | cons x xs ih =>
    rw [List.cons_append, Reader.feedLines_cons, Reader.feedLines_cons, bind_assoc]
    congr 1
    funext r'
    exact ih _

/-- Between lines the reader is at the start of a record or inside a quoted field. -/
theorem Reader.feedLines_between {r s : Reader} {lines : List (List Char)} (hr : r.BetweenLines)
    (h : r.feedLines lines = .ok s) : s.BetweenLines := by
  induction lines generalizing r with
  | nil =>
    obtain rfl : r = s := Except.ok.inj h
    exact hr
  | cons line rest ih =>
    rw [Reader.feedLines_cons] at h
    cases hline : r.feedLine ',' '"' line with
    | error e =>
      rw [hline] at h
      cases h
    | ok r₁ =>
      rw [hline, except_ok_bind] at h
      refine ih ?_ h
      rcases Reader.feedLine_phase hline with hend | hquoted
      · rw [hend]
        exact .inl rfl
      · rw [hquoted]
        exact .inr hquoted

/-- Reading records fails exactly where the run over the lines fails. -/
theorem readRecords_go_eq_error {r : Reader} {lines : List (List Char)} {e : ReadError} :
    readRecords.go ',' '"' r lines = .error e ↔ r.feedLines lines = .error e := by
  induction lines generalizing r with
  | nil => simp [readRecords.go]
  | cons line rest ih =>
    rw [readRecords.go, Reader.feedLines_cons]
    cases hline : r.feedLine ',' '"' line with
    | error e' => simp only [bind, Except.bind, Except.error.injEq]
    | ok r₁ =>
      simp only [except_ok_bind]
      rcases Reader.feedLine_phase hline with hend | hquoted
      · -- the record ends here; what follows is read from a fresh reader
        rw [hend, Phase.beq_self, if_pos rfl, if_pos rfl, ← ih]
        cases readRecords.go ',' '"' Reader.fresh rest with
        | error e'' => exact Iff.rfl
        | ok recs => simp
      · -- a quoted field goes on into the next line
        have hnot : (r₁.phase == .startRecord) = false := by rw [hquoted]; rfl
        rw [hnot, if_neg Bool.false_ne_true, if_neg Bool.false_ne_true, ih]

/-- A run over lines fails at its first failing character: the ends of lines never fail. -/
theorem Reader.feedLines_eq_error {r : Reader} {lines : List (List Char)} {e : ReadError}
    (h : r.feedLines lines = .error e) :
    ∃ (done after : List (List Char)) (pre rest : List Char) (c : Char) (s : Reader),
      lines = done ++ (pre ++ c :: rest) :: after ∧
      (r.feedLines done >>= fun r => r.feed pre) = .ok s ∧ s.step ',' '"' (some c) = .error e := by
  induction lines generalizing r with
  | nil => cases h
  | cons line more ih =>
    rw [Reader.feedLines_cons, Reader.feedLine_eq_feed] at h
    cases hfeed : r.feed line with
    | error e' =>
      rw [hfeed] at h
      obtain rfl : e' = e := Except.error.inj h
      obtain ⟨pre, c, rest, s, rfl, hpre, hc⟩ := Reader.feed_eq_error hfeed
      exact ⟨[], more, pre, rest, c, s, rfl, hpre, hc⟩
    | ok s₁ =>
      -- the line's end does not fail, so the rest of the lines does
      obtain ⟨s₂, hend⟩ := Reader.step_none_ok s₁
      rw [hfeed, except_ok_bind, hend, except_ok_bind] at h
      obtain ⟨done, after, pre, rest, c, s, rfl, hpre, hc⟩ := ih h
      refine ⟨line :: done, after, pre, rest, c, s, rfl, ?_, hc⟩
      rw [Reader.feedLines_cons, Reader.feedLine_eq_feed, hfeed, except_ok_bind, hend,
        except_ok_bind]
      exact hpre

/-- A run over lines that reaches, inside a line, a reader from which the rest of the line fails,
fails. -/
theorem Reader.feedLines_error_of_feed {r s : Reader} {done after : List (List Char)}
    {pre rest : List Char} {e : ReadError}
    (hpre : (r.feedLines done >>= fun r => r.feed pre) = .ok s) (hrest : s.feed rest = .error e) :
    r.feedLines (done ++ (pre ++ rest) :: after) = .error e := by
  rw [Reader.feedLines_append]
  cases hdone : r.feedLines done with
  | error e' =>
    rw [hdone] at hpre
    cases hpre
  | ok r₁ =>
    rw [hdone, except_ok_bind] at hpre
    rw [except_ok_bind, Reader.feedLines_cons, Reader.feedLine_append, hpre, except_ok_bind,
      Reader.feedLine_eq_feed, hrest]
    rfl

/-! ## Faults -/

/-- A fault that reading a sequence of lines meets. After some lines read whole and the first
characters of the next, all without a fault, the reader either stands outside quotes before a
carriage return, or holds a field that the next character, which the field takes, would make
longer than the limit. -/
def ReadFault (lines : List (List Char)) : Prop :=
  ∃ (done after : List (List Char)) (pre rest : List Char) (c : Char) (r : Reader),
    lines = done ++ (pre ++ c :: rest) :: after ∧
    (Reader.fresh.feedLines done >>= fun r => r.feed pre) = .ok r ∧
    ((c = '\r' ∧ r.phase ≠ .inQuoted) ∨ (r.phase.takes c = true ∧ fieldLimit ≤ r.fieldLength))

/-- Lines as the reader is handed them: no newline in them, and none ends in a line break. -/
structure HandedLines (lines : List (List Char)) : Prop where
  no_newline : ∀ l ∈ lines, '\n' ∉ l
  last_not_break : ∀ l ∈ lines, ∀ c ∈ l.getLast?, isBreak c = false

/-- A handed line that has a character after a carriage return has one that is no line break. -/
theorem HandedLines.exists_not_break {lines : List (List Char)} (h : HandedLines lines)
    {pre rest : List Char} (hline : pre ++ '\r' :: rest ∈ lines) :
    ∃ c ∈ rest, isBreak c = false := by
  have hlast := h.last_not_break _ hline
  cases hrest : rest.getLast? with
  | none =>
    -- the line would end in the carriage return
    rw [List.getLast?_eq_none_iff.1 hrest] at hlast
    simp [isBreak] at hlast
  | some c =>
    refine ⟨c, List.mem_of_getLast? hrest, hlast c ?_⟩
    rw [List.getLast?_append, List.getLast?_cons, hrest]
    rfl

/-- Reading handed lines fails exactly when it meets a fault. -/
theorem readRecords_eq_error_iff {lines : List (List Char)} (h : HandedLines lines) :
    (∃ e, readRecords ',' '"' lines = .error e) ↔ ReadFault lines := by
  unfold readRecords
  constructor
  · rintro ⟨e, he⟩
    obtain ⟨done, after, pre, rest, c, s, rfl, hpre, hc⟩ :=
      Reader.feedLines_eq_error (readRecords_go_eq_error.1 he)
    rcases Reader.step_eq_error.1 hc with ⟨hs, -, -⟩ | ⟨htakes, hfull, -⟩
    · -- a character after a line break: the line break came earlier in the same line
      cases hdone : Reader.fresh.feedLines done with
      | error e' =>
        rw [hdone] at hpre
        cases hpre
      | ok r₀ =>
        rw [hdone, except_ok_bind] at hpre
        have hr₀ : r₀.phase ≠ .afterBreak := by
          rcases Reader.feedLines_between (.inl rfl) hdone with rfl | hq
          · exact fun h => nomatch h
          · rw [hq]
            exact fun h => nomatch h
        obtain ⟨pre₁, d, pre₂, t, rfl, ht, hd, hq⟩ := Reader.feed_enters_afterBreak hpre hr₀ hs
        have hnl : '\n' ∉ pre₁ ++ d :: pre₂ ++ c :: rest := h.no_newline _ (by simp)
        have hcr : d = '\r' := by
          have hd' : d = '\n' ∨ d = '\r' := by simpa [isBreak] using hd
          exact hd'.resolve_left fun e => hnl (by simp [e])
        refine ⟨done, after, pre₁, pre₂ ++ c :: rest, d, t, by simp, ?_, .inl ⟨hcr, hq⟩⟩
        rw [hdone, except_ok_bind, ht]
    · exact ⟨done, after, pre, rest, c, s, rfl, hpre, .inr ⟨htakes, hfull⟩⟩
  · rintro ⟨done, after, pre, rest, c, r, rfl, hpre, hcr | ⟨htakes, hfull⟩⟩
    · -- the carriage return puts the reader after a line break, and the line goes on
      obtain ⟨rfl, hq⟩ := hcr
      obtain ⟨r', hstep, hr'⟩ := @Reader.step_break r '\r' rfl hq
      have hmore : ∃ d ∈ rest, isBreak d = false :=
        @HandedLines.exists_not_break _ h pre rest (by simp)
      refine ⟨.newlineInField, readRecords_go_eq_error.2 (Reader.feedLines_error_of_feed hpre ?_)⟩
      rw [Reader.feed_cons, hstep, except_ok_bind]
      exact Reader.feed_afterBreak hr' hmore
    · refine ⟨.fieldTooLarge fieldLimit,
        readRecords_go_eq_error.2 (Reader.feedLines_error_of_feed hpre ?_)⟩
      rw [Reader.feed_cons, Reader.step_eq_error.2 (.inr ⟨htakes, hfull, rfl⟩)]
      rfl

/-- Reading ends without a record only on no lines, from a reader that holds nothing. -/
theorem readRecords_go_eq_nil {r : Reader} {lines : List (List Char)}
    (h : readRecords.go ',' '"' r lines = .ok []) : lines = [] ∧ r.pending = false := by
  induction lines generalizing r with
  | nil =>
    refine ⟨rfl, ?_⟩
    by_cases hp : r.pending = true
    · simp [readRecords.go, hp] at h
    · simpa using hp
  | cons line rest ih =>
    exfalso
    rw [readRecords.go] at h
    cases hline : r.feedLine ',' '"' line with
    | error e =>
      rw [hline] at h
      cases h
    | ok r₁ =>
      rw [hline, except_ok_bind] at h
      rcases Reader.feedLine_phase hline with hend | hquoted
      · -- the line ends a record, which comes first
        rw [hend, Phase.beq_self, if_pos rfl] at h
        cases hrest : readRecords.go ',' '"' Reader.fresh rest <;> rw [hrest] at h <;> cases h
      · -- a quoted field is open, and it makes a record even if no line follows
        have hnot : (r₁.phase == .startRecord) = false := by rw [hquoted]; rfl
        rw [hnot, if_neg Bool.false_ne_true] at h
        have hpending : r₁.pending = true := by simp [Reader.pending, hquoted]
        rw [(ih h).2] at hpending
        cases hpending

/-- Reading gives no record exactly when there is no line. -/
theorem readRecords_eq_nil_iff {lines : List (List Char)} :
    readRecords ',' '"' lines = .ok [] ↔ lines = [] := by
  constructor
  · exact fun h => (readRecords_go_eq_nil h).1
  · rintro rfl
    rfl

/-! ## Tables -/

/-- The lines the record reader is handed from a text have no newline and do not end in a line
break: each is a line of the text trimmed of blanks. -/
theorem handedLines_recordLines (text : String) : HandedLines (recordLines text) where
  no_newline := by
    intro l hl hmem
    obtain ⟨line, hline, rfl⟩ := List.mem_map.1 hl
    obtain ⟨body, hbody, hshape⟩ := exists_body_of_mem_splitLines (List.mem_filter.1 hline).1
    -- what trimming leaves of a line is a part of it before its newline
    have hkept : trimBlank line = trimBlank body := by
      rcases hshape with rfl | rfl
      · exact trimBy_append_of_forall body (by simp)
      · rfl
    rw [hkept] at hmem
    exact hbody ((trimBy_sublist _ _).subset hmem)
  last_not_break := by
    intro l hl c hc
    obtain ⟨line, -, rfl⟩ := List.mem_map.1 hl
    cases hb : isBreak c
    · rfl
    · have hkept := trimBy_getLast? isBlank line c hc
      rw [isBlank_of_isBreak hb] at hkept
      cases hkept

/-- No line is handed to the record reader exactly when every line of the text is a bare
newline or a comment. -/
theorem recordLines_eq_nil_iff (text : String) :
    recordLines text = [] ↔ ∀ line ∈ splitLines text.toList, keepsLine line = false := by
  simp [recordLines, List.filter_eq_nil_iff]

/-- Reading a table fails in two ways and no other. It finds no header exactly when no line of
the text is kept, each being a bare newline or a comment. It fails on the records exactly when
the kept lines, trimmed, meet a fault: a carriage return outside quotes, or a field that grows
longer than the limit, across lines while a quote is open. Every other text is read. -/
theorem readTable_outcome (trimHeader : Bool) (text : String) :
    (readTable trimHeader text = .error .noHeader ↔
      ∀ line ∈ splitLines text.toList, keepsLine line = false) ∧
    ((∃ e, readTable trimHeader text = .error (.read e)) ↔ ReadFault (recordLines text)) ∧
    ((∃ t, readTable trimHeader text = .ok t) ↔
      (∃ line ∈ splitLines text.toList, keepsLine line = true) ∧
        ¬ ReadFault (recordLines text)) := by
  have hfault := readRecords_eq_error_iff (handedLines_recordLines text)
  have hkept :
      (∃ line ∈ splitLines text.toList, keepsLine line = true) ↔ recordLines text ≠ [] := by
    simp [recordLines_eq_nil_iff]
  rw [← recordLines_eq_nil_iff, hkept, ← hfault]
  unfold readTable
  by_cases hnil : recordLines text = []
  · -- no line is handed to the reader, so there is no record to be the header
    rw [readRecords_eq_nil_iff.2 hnil]
    simp [hnil]
  · cases hread : readRecords ',' '"' (recordLines text) with
    | error e => simp [hnil]
    | ok records =>
      cases records with
      | nil => exact absurd (readRecords_eq_nil_iff.1 hread) hnil
      | cons first rest => simp [hnil]

example : readTable false "# note\n\n" = .error .noHeader := rfl

/-- A carriage return inside quotes is part of the field; outside quotes it fails. -/
example : readTable false "\"a\rb\",c\r d\n" = .error (.read .newlineInField) := rfl

end Tabula.Csv
