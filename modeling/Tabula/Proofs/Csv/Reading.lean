import Tabula.Csv.Reader
import Tabula.Csv.Writer

/-!
# The record reader on written fields

The record reader reads the comma and double quote format one character at a time.  This
module gives the reader's steps on the characters a written record is made of, and builds from
them what it does to whole fields, lines and texts.

* `Reader.feed` is the reader's run over characters, and `Reader.feedLine` is a run followed by
  the end of the line.  Both split at any point (`Reader.feed_append`,
  `Reader.feedLine_append`).
* The step lemmas say what one character does in each phase: a plain character is added to
  the field, a delimiter ends the field, the end of the line ends the record.
* `Reader.feed_field` reads one field as the writer writes it, quoted or not: the reader ends
  in a phase from which a delimiter or the end of the line closes the field, holding exactly
  the field's characters.
* `Reader.feedLine_joinWith` reads a whole written line as one record, and
  `readRecords_map` reads a text of such lines as the records they were written from.
-/

namespace Tabula.Csv

/-! ## Runs over characters -/

@[simp] theorem except_ok_bind {ε α β : Type} (a : α) (f : α → Except ε β) :
    (Except.ok a >>= f) = f a := rfl

/-- Feeds characters to the reader, one step each. -/
def Reader.feed (r : Reader) (cs : List Char) : Except ReadError Reader :=
  cs.foldlM (fun r c => r.step ',' '"' (some c)) r

@[simp] theorem Reader.feed_nil (r : Reader) : r.feed [] = .ok r := rfl

theorem Reader.feed_cons (r : Reader) (c : Char) (cs : List Char) :
    r.feed (c :: cs) = r.step ',' '"' (some c) >>= fun r => r.feed cs := rfl

theorem Reader.feed_append (r : Reader) (xs ys : List Char) :
    r.feed (xs ++ ys) = r.feed xs >>= fun r => r.feed ys := by
  simp only [Reader.feed, List.foldlM_append]

theorem Reader.feedLine_eq_feed (r : Reader) (line : List Char) :
    r.feedLine ',' '"' line = r.feed line >>= fun r => r.step ',' '"' none := rfl

theorem Reader.feedLine_append (r : Reader) (xs ys : List Char) :
    r.feedLine ',' '"' (xs ++ ys) = r.feed xs >>= fun r => r.feedLine ',' '"' ys := by
  simp only [Reader.feedLine_eq_feed, Reader.feed_append, bind_assoc]

theorem Reader.feedLine_cons (r : Reader) (c : Char) (cs : List Char) :
    r.feedLine ',' '"' (c :: cs) =
      r.step ',' '"' (some c) >>= fun r => r.feedLine ',' '"' cs := by
  simp only [Reader.feedLine_eq_feed, Reader.feed_cons, bind_assoc]

/-! ## Steps -/

/-- A character with no role in the format: not the delimiter, not the quote, no line
break. -/
def IsPlain (c : Char) : Prop := c ≠ ',' ∧ c ≠ '"' ∧ isBreak c = false

theorem Reader.add_of_lt {r : Reader} (c : Char) (p : Phase) (h : r.fieldLength < fieldLimit) :
    r.add c p = .ok { r with field := c :: r.field, fieldLength := r.fieldLength + 1, phase := p } :=
  if_neg (Nat.not_le.2 h)

/-- A plain character at the start of a field begins an unquoted field. -/
theorem Reader.step_start_plain {p : Phase} (hp : p = .startRecord ∨ p = .startField)
    {fields : List String} {c : Char} (hc : IsPlain c) :
    (⟨p, fields, [], 0⟩ : Reader).step ',' '"' (some c) = .ok ⟨.inField, fields, [c], 1⟩ := by
  obtain ⟨hdelim, hquote, hbreak⟩ := hc
  rcases hp with rfl | rfl <;>
    simp [Reader.step, Reader.add, hdelim, hquote, hbreak, fieldLimit]

/-- A plain character inside an unquoted field is added to it. -/
theorem Reader.step_inField_plain {fields : List String} {acc : List Char} {n : Nat} {c : Char}
    (hc : IsPlain c) (hn : n < fieldLimit) :
    (⟨.inField, fields, acc, n⟩ : Reader).step ',' '"' (some c) =
      .ok ⟨.inField, fields, c :: acc, n + 1⟩ := by
  obtain ⟨hdelim, hquote, hbreak⟩ := hc
  simp only [Reader.step, hbreak, hdelim, beq_iff_eq, if_false, Bool.false_eq_true]
  exact Reader.add_of_lt c .inField hn

/-- A quote at the start of a field opens a quoted field. -/
theorem Reader.step_start_quote {p : Phase} (hp : p = .startRecord ∨ p = .startField)
    {fields : List String} :
    (⟨p, fields, [], 0⟩ : Reader).step ',' '"' (some '"') = .ok ⟨.inQuoted, fields, [], 0⟩ := by
  rcases hp with rfl | rfl <;> rfl

/-- Inside quotes, any character but the quote is added to the field. -/
theorem Reader.step_inQuoted_other {fields : List String} {acc : List Char} {n : Nat} {c : Char}
    (hc : c ≠ '"') (hn : n < fieldLimit) :
    (⟨.inQuoted, fields, acc, n⟩ : Reader).step ',' '"' (some c) =
      .ok ⟨.inQuoted, fields, c :: acc, n + 1⟩ := by
  simp only [Reader.step, beq_iff_eq, hc, if_false]
  exact Reader.add_of_lt c .inQuoted hn

/-- Inside quotes, a quote may close the field or begin a doubled quote. -/
theorem Reader.step_inQuoted_quote {fields : List String} {acc : List Char} {n : Nat} :
    (⟨.inQuoted, fields, acc, n⟩ : Reader).step ',' '"' (some '"') =
      .ok ⟨.quoteInQuoted, fields, acc, n⟩ := rfl

/-- A second quote stands for one quote in the field. -/
theorem Reader.step_doubled_quote {fields : List String} {acc : List Char} {n : Nat}
    (hn : n < fieldLimit) :
    (⟨.quoteInQuoted, fields, acc, n⟩ : Reader).step ',' '"' (some '"') =
      .ok ⟨.inQuoted, fields, '"' :: acc, n + 1⟩ :=
  Reader.add_of_lt '"' .inQuoted hn

@[simp] theorem Phase.beq_self (p : Phase) : (p == p) = true := by
  cases p <;> rfl

/-- The phases in which the field being read is ended by a delimiter. -/
def Phase.endsAtDelimiter : Phase → Bool
  | .startRecord | .startField | .inField | .quoteInQuoted => true
  | .inQuoted | .afterBreak => false

/-- The phases in which the field being read is ended by the end of the line. -/
def Phase.endsAtLineEnd : Phase → Bool
  | .startField | .inField | .quoteInQuoted => true
  | .startRecord | .inQuoted | .afterBreak => false

/-- A delimiter outside quotes ends the field and starts the next one. -/
theorem Reader.step_delimiter {p : Phase} (hp : p.endsAtDelimiter = true) {fields : List String}
    {acc : List Char} {n : Nat} :
    (⟨p, fields, acc, n⟩ : Reader).step ',' '"' (some ',') =
      .ok ⟨.startField, String.ofList acc.reverse :: fields, [], 0⟩ := by
  cases p <;> first | rfl | cases hp

/-- The end of the line outside quotes ends the field and the record. -/
theorem Reader.step_lineEnd {p : Phase} (hp : p.endsAtLineEnd = true) {fields : List String}
    {acc : List Char} {n : Nat} :
    (⟨p, fields, acc, n⟩ : Reader).step ',' '"' none =
      .ok ⟨.startRecord, String.ofList acc.reverse :: fields, [], 0⟩ := by
  cases p <;> first | rfl | cases hp

/-! ## Fields -/

/-- The characters of an unquoted field are added one by one. -/
theorem Reader.feed_plain {fields : List String} {acc : List Char} {n : Nat} {cs : List Char}
    (hcs : ∀ c ∈ cs, IsPlain c) (hlen : n + cs.length ≤ fieldLimit) :
    (⟨.inField, fields, acc, n⟩ : Reader).feed cs =
      .ok ⟨.inField, fields, cs.reverse ++ acc, n + cs.length⟩ := by
  induction cs generalizing acc n with
  | nil => rfl
  | cons c cs ih =>
    have hc : IsPlain c := hcs c List.mem_cons_self
    have hrest : ∀ c ∈ cs, IsPlain c := fun c' h => hcs c' (List.mem_cons_of_mem _ h)
    have hn : n < fieldLimit := by simp at hlen; omega
    have hfeed : (⟨.inField, fields, c :: acc, n + 1⟩ : Reader).feed cs =
        .ok ⟨.inField, fields, cs.reverse ++ c :: acc, n + 1 + cs.length⟩ :=
      ih hrest (by simp at hlen; omega)
    rw [Reader.feed_cons, Reader.step_inField_plain hc hn, except_ok_bind, hfeed,
      show n + 1 + cs.length = n + (c :: cs).length by simp; omega]
    simp

theorem doubleQuotes_cons (c : Char) (cs : List Char) :
    Dialect.standard.doubleQuotes (c :: cs) =
      (if c = '"' then ['"', '"'] else [c]) ++ Dialect.standard.doubleQuotes cs := by
  by_cases hc : c = '"' <;> simp [Dialect.doubleQuotes, Dialect.standard, hc]

/-- The characters of a quoted field, each quote written twice, are added one by one. -/
theorem Reader.feed_doubleQuotes {fields : List String} {acc : List Char} {n : Nat}
    {cs : List Char} (hlen : n + cs.length ≤ fieldLimit) :
    (⟨.inQuoted, fields, acc, n⟩ : Reader).feed (Dialect.standard.doubleQuotes cs) =
      .ok ⟨.inQuoted, fields, cs.reverse ++ acc, n + cs.length⟩ := by
  induction cs generalizing acc n with
  | nil => rfl
  | cons c cs ih =>
    have hn : n < fieldLimit := by simp at hlen; omega
    have hfeed : (⟨.inQuoted, fields, c :: acc, n + 1⟩ : Reader).feed
        (Dialect.standard.doubleQuotes cs) =
          .ok ⟨.inQuoted, fields, cs.reverse ++ c :: acc, n + 1 + cs.length⟩ :=
      ih (by simp at hlen; omega)
    have hadd : (⟨.inQuoted, fields, acc, n⟩ : Reader).feed (if c = '"' then ['"', '"'] else [c]) =
        .ok ⟨.inQuoted, fields, c :: acc, n + 1⟩ := by
      by_cases hc : c = '"'
      · subst hc
        simp only [if_true, Reader.feed_cons, Reader.step_inQuoted_quote, except_ok_bind,
          Reader.step_doubled_quote hn]
        rfl
      · simp only [hc, if_false, Reader.feed_cons, Reader.step_inQuoted_other hc hn,
          except_ok_bind]
        rfl
    rw [doubleQuotes_cons, Reader.feed_append, hadd, except_ok_bind, hfeed,
      show n + 1 + cs.length = n + (c :: cs).length by simp; omega]
    simp

/-- Reading a field as the writer writes it, from the start of a field.  The reader then holds
the field's characters, in a phase that a delimiter or the end of the line ends; an empty field
is written as nothing and leaves the reader where it was. -/
theorem Reader.feed_field {p : Phase} (hp : p = .startRecord ∨ p = .startField)
    {fields : List String} {cs : List Char}
    (hbreak : ∀ c ∈ cs, isBreak c = false) (hlen : cs.length ≤ fieldLimit) :
    ∃ q, (⟨p, fields, [], 0⟩ : Reader).feed (Dialect.standard.field cs) =
        .ok ⟨q, fields, cs.reverse, cs.length⟩ ∧
      (q = .inField ∨ q = .quoteInQuoted ∨ (cs = [] ∧ q = p)) := by
  unfold Dialect.field
  split
  · -- quoted: the quotes around the field and every inner quote doubled
    refine ⟨.quoteInQuoted, ?_, Or.inr (Or.inl rfl)⟩
    have hbody := @Reader.feed_doubleQuotes fields [] 0 cs (by simpa using hlen)
    rw [List.append_nil, Nat.zero_add] at hbody
    rw [show Dialect.standard.quote = '"' from rfl, List.cons_append, Reader.feed_cons,
      Reader.step_start_quote hp, except_ok_bind, Reader.feed_append, hbody, except_ok_bind]
    rfl
  · -- unquoted: no delimiter, quote or newline in the field
    rename_i hquote
    simp only [Dialect.needsQuotes, List.any_eq_true, not_exists, not_and] at hquote
    have hall : ∀ c ∈ cs, IsPlain c := by
      intro c hc
      have hc' := hquote c hc
      simp only [Dialect.standard, Bool.or_eq_true, beq_iff_eq, not_or] at hc'
      exact ⟨hc'.1.1, hc'.1.2, hbreak c hc⟩
    cases cs with
    | nil => exact ⟨p, rfl, Or.inr (Or.inr ⟨rfl, rfl⟩)⟩
    | cons c cs =>
      refine ⟨.inField, ?_, Or.inl rfl⟩
      have hrest := @Reader.feed_plain fields [c] 1 cs
        (fun c' h => hall c' (List.mem_cons_of_mem _ h)) (by simp at hlen; omega)
      rw [Reader.feed_cons, Reader.step_start_plain hp (hall c List.mem_cons_self),
        except_ok_bind, hrest]
      simp [Nat.add_comm]

/-! ## Lines and texts -/

theorem joinWith_cons_cons (sep : Char) (x y : List Char) (rest : List (List Char)) :
    joinWith sep (x :: y :: rest) = x ++ sep :: joinWith sep (y :: rest) := rfl

/-- A line written from one or more fields, read from the start of a record or of a field, is
one record of those fields.  The one exception is a single empty field at the start of a
record: it is written as nothing, which the reader takes for an empty record. -/
theorem Reader.feedLine_joinWith {p : Phase} (hp : p = .startRecord ∨ p = .startField)
    {fields : List String} {cells : List (List Char)} (hne : cells ≠ [])
    (hcells : ∀ cs ∈ cells, (∀ c ∈ cs, isBreak c = false) ∧ cs.length ≤ fieldLimit)
    (hsingle : p = .startRecord → cells ≠ [[]]) :
    (⟨p, fields, [], 0⟩ : Reader).feedLine ',' '"'
        (joinWith ',' (cells.map Dialect.standard.field)) =
      .ok ⟨.startRecord, (cells.map String.ofList).reverse ++ fields, [], 0⟩ := by
  induction cells generalizing p fields with
  | nil => exact absurd rfl hne
  | cons cs rest ih =>
    obtain ⟨hbreak, hlen⟩ := hcells cs List.mem_cons_self
    obtain ⟨q, hfeed, hq⟩ := @Reader.feed_field p hp fields cs hbreak hlen
    cases rest with
    | nil =>
      -- the last field: the end of the line closes it
      have hend : q.endsAtLineEnd = true := by
        rcases hq with rfl | rfl | ⟨rfl, rfl⟩
        · rfl
        · rfl
        · rcases hp with rfl | rfl
          · exact absurd rfl (hsingle rfl)
          · rfl
      rw [List.map_cons, List.map_nil, joinWith, Reader.feedLine_eq_feed, hfeed, except_ok_bind,
        Reader.step_lineEnd hend]
      simp
    | cons ds rest =>
      -- a delimiter closes the field and the next one starts
      have hdelim : q.endsAtDelimiter = true := by
        rcases hq with rfl | rfl | ⟨_, rfl⟩
        · rfl
        · rfl
        · rcases hp with rfl | rfl <;> rfl
      have hnext := @ih .startField (Or.inr rfl) (String.ofList cs :: fields)
        (List.cons_ne_nil _ _) (fun c hc => hcells c (List.mem_cons_of_mem _ hc))
        (fun h => nomatch h)
      rw [List.map_cons, List.map_cons, joinWith_cons_cons, Reader.feedLine_append, hfeed,
        except_ok_bind, Reader.feedLine_cons, Reader.step_delimiter hdelim, except_ok_bind,
        List.reverse_reverse, ← List.map_cons, hnext]
      simp

/-- A text of lines that each read, from a fresh reader, as one whole record is read as those
records. -/
theorem readRecords_map {α : Type} (line : α → List Char) (record : α → List String)
    (xs : List α)
    (h : ∀ x ∈ xs, Reader.fresh.feedLine ',' '"' (line x) =
      .ok ⟨.startRecord, (record x).reverse, [], 0⟩) :
    readRecords ',' '"' (xs.map line) = .ok (xs.map record) := by
  unfold readRecords
  induction xs with
  | nil => rfl
  | cons x xs ih =>
    have hrest := ih fun y hy => h y (List.mem_cons_of_mem _ hy)
    simp only [List.map_cons, readRecords.go, h x List.mem_cons_self, except_ok_bind]
    rw [if_pos (Phase.beq_self _), hrest, except_ok_bind, List.reverse_reverse]
    rfl

end Tabula.Csv
