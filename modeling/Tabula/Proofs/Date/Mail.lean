import Mathlib
import Tabula.Date.Convert
import Tabula.Proofs.Date.Numeric

/-!
# Mail dates

A mail date spells a moment as an optional weekday with its comma, the day in one or two digits,
the name of the month in any letter case, a four-digit year and the time, each after a space,
with any zone at the end (`MailDate`). Such a text has none of the fixed numeric shapes and has
the first mail shape (`MailDate.dateOf?_text`), so it is read word by word. Its words are the
date's own (`words_intercalate`); the weekday is dropped, an empty zone is added and the parts
are read from their digits (`MailDate.readMailParts_text`).

The year is then taken through the two-digit window, which moves the years 0 to 99 into 1969 to
2068 and keeps leap years (`isLeap_windowYear`), so a valid moment stays valid
(`MailDate.windowed_valid`). The conversion of a date cell therefore turns a mail date into the
value of the `YYYY-MM-DD` spelling of its windowed day plus the seconds of its time of day, and
the window changes the day exactly when the year is below 100
(`convertText_mailDate_windowed`). So `1 Jan 0001 00:00` converts to the first second of 2001
(`convertText_mailDate_year_one`).
-/

namespace Tabula.Text

open Tabula.Decimal

/-! ## ASCII letters and digits -/

theorem ascii_letter_classes : ∀ n : Fin 128, (Char.ofNat n).isAlpha = true →
    isWordChar (Char.ofNat n) = true ∧ isBlank (Char.ofNat n) = false ∧
      isDecimal (Char.ofNat n) = false := by
  decide

theorem ascii_digit_classes : ∀ n : Fin 128, (Char.ofNat n).isDigit = true →
    isWordChar (Char.ofNat n) = true ∧ isDigitLike (Char.ofNat n) = true ∧
      (Char.ofNat n).isAlpha = false := by
  decide

theorem isAlpha_toNat_lt {c : Char} (h : c.isAlpha = true) : c.toNat < 128 := by
  simp only [Char.isAlpha, Char.isUpper, Char.isLower, Bool.or_eq_true, Bool.and_eq_true,
    decide_eq_true_eq, UInt32.le_iff_toNat_le] at h
  rcases h with ⟨-, h⟩ | ⟨-, h⟩ <;> exact Nat.lt_of_le_of_lt h (by decide)

/-- An ASCII letter is a word character, no blank and no digit of any script. -/
theorem classes_of_isAlpha {c : Char} (h : c.isAlpha = true) :
    isWordChar c = true ∧ isBlank c = false ∧ isDecimal c = false := by
  simpa [Char.ofNat_toNat] using ascii_letter_classes ⟨c.toNat, isAlpha_toNat_lt h⟩
    (by simpa [Char.ofNat_toNat] using h)

/-- An ASCII digit is a word character with a digit value, and no letter. -/
theorem classes_of_isDigit {c : Char} (h : c.isDigit = true) :
    isWordChar c = true ∧ isDigitLike c = true ∧ c.isAlpha = false := by
  simpa [Char.ofNat_toNat] using ascii_digit_classes ⟨c.toNat, isDigit_toNat_lt h⟩
    (by simpa [Char.ofNat_toNat] using h)

/-- Only an ASCII letter becomes a lower-case letter when lowered. -/
theorem isAlpha_of_isLower_toLower {c : Char} (h : c.toLower.isLower = true) :
    c.isAlpha = true := by
  unfold Char.toLower at h
  split at h
  · rename_i hupper
    simp only [Char.isAlpha, Char.isUpper, Bool.or_eq_true, decide_eq_true_eq]
    exact Or.inl hupper
  · simp [Char.isAlpha, h]

/-! ## Words -/

/-- A blank ends a word: the words of a text around a blank are the words of either side. -/
theorem words_append_blank {c : Char} (hc : isBlank c = true) (x y : List Char) :
    words (x ++ c :: y) = words x ++ words y := by
  have hcut : ∀ a : Char, (!isBlank a && !isBlank c) = false := by simp [hc]
  have hone : [c].splitBy (fun a b => !isBlank a && !isBlank b) = [[c]] :=
    List.splitBy_of_isChain (List.cons_ne_nil c []) (by simp)
  unfold words
  -- the blank is a group of its own, which the filter drops
  rw [List.splitBy_append_cons y (by simp [hcut]), ← List.singleton_append,
    List.splitBy_append (by simp [hc]), hone]
  simp [hc]

/-- A text without blanks is one word. -/
theorem words_of_nonblank {w : List Char} (hne : w ≠ []) (hw : ∀ c ∈ w, isBlank c = false) :
    words w = [w] := by
  have hchain : w.IsChain fun a b => !isBlank a && !isBlank b :=
    (List.pairwise_of_forall_mem_list fun a ha b hb => by simp [hw a ha, hw b hb]).isChain
  obtain ⟨c, hc⟩ := List.exists_mem_of_ne_nil w hne
  have hany : w.any (fun a => !isBlank a) = true := List.any_eq_true.2 ⟨c, hc, by simp [hw c hc]⟩
  unfold words
  rw [List.splitBy_of_isChain hne hchain, List.filter_singleton, hany]
  rfl

/-- Words without blanks, joined by spaces, are read back as the same words. -/
theorem words_intercalate : ∀ {ws : List (List Char)},
    (∀ w ∈ ws, w ≠ [] ∧ ∀ c ∈ w, isBlank c = false) → words ([' '].intercalate ws) = ws
  | [], _ => by simp [words]
  | [w], h => by
    rw [List.intercalate_singleton]
    exact words_of_nonblank (h w List.mem_cons_self).1 (h w List.mem_cons_self).2
  | w :: w' :: ws, h => by
    obtain ⟨hw, hrest⟩ := List.forall_mem_cons.1 h
    rw [List.intercalate_cons_cons, List.append_assoc, List.singleton_append,
      words_append_blank (by decide), words_of_nonblank hw.1 hw.2, words_intercalate hrest,
      List.singleton_append]

end Tabula.Text

namespace Tabula.Date

open Tabula.Text Tabula.Decimal

/-! ## Names, words and numbers -/

/-- A word whose lower-case form is one of some lower-case names is made of ASCII letters. -/
theorem isAlpha_of_lowerWord_mem {w : List Char} {names : List String}
    (hnames : ∀ n ∈ names, ∀ c ∈ n.toList, c.isLower = true) (h : lowerWord w ∈ names) :
    ∀ c ∈ w, c.isAlpha = true := by
  intro c hc
  apply isAlpha_of_isLower_toLower
  apply hnames _ h
  rw [lowerWord, String.toList_ofList]
  exact List.mem_map_of_mem hc

theorem monthNames_lower : ∀ n ∈ monthNames, ∀ c ∈ n.toList, c.isLower = true := by
  have h : monthNames.all (fun n => n.toList.all Char.isLower) = true := by decide
  simpa using h

theorem dayNames_lower : ∀ n ∈ dayNames, ∀ c ∈ n.toList, c.isLower = true := by
  have h : dayNames.all (fun n => n.toList.all Char.isLower) = true := by decide
  simpa using h

theorem idxOf?_eq_some_idxOf {α : Type} [BEq α] [LawfulBEq α] {l : List α} {a : α}
    (h : a ∈ l) : l.idxOf? a = some (l.idxOf a) := by
  induction l with
  | nil => simp at h
  | cons x xs ih =>
    rw [List.idxOf?_cons, List.idxOf_cons]
    by_cases hx : x = a
    · simp [hx]
    · have hxs : a ∈ xs := (List.mem_cons.1 h).resolve_left (Ne.symm hx)
      simp [beq_false_of_ne hx, ih hxs]

theorem dropComma_of_not_mem {w : List Char} (h : ',' ∉ w) : dropComma w = w := by
  have hlast : w.getLast? ≠ some ',' := fun hl => h (List.mem_of_mem_getLast? hl)
  simp [dropComma, hlast]

/-- A word of digits is read as the number it writes. -/
theorem wordValue?_digits {w : List Char} (hne : w ≠ []) (hw : ∀ c ∈ w, c.isDigit = true) :
    wordValue? w = some (digitsValue w : Int) :=
  readWhole?_digits hne hw

/-- Four words or more are no dashed date. -/
theorem expandDashed_of_four (a b c d : List Char) (rest : List (List Char)) :
    expandDashed (a :: b :: c :: d :: rest) = a :: b :: c :: d :: rest := by
  simp [expandDashed]

/-! ## The two-digit window -/

/-- Two-digit years are taken as 1969 to 2068: the years 0 to 68 as 2000 to 2068, the years 69
to 99 as 1969 to 1999. Later years stay as they are. -/
def windowYear (y : Int) : Int := if y < 100 then (if y ≤ 68 then y + 2000 else y + 1900) else y

/-- The window keeps leap years: it moves a year by a multiple of 400, or by 1900 within a
century that is not a multiple of 400. -/
theorem isLeap_windowYear {y : Int} (h : 0 ≤ y) : isLeap (windowYear y) = isLeap y := by
  unfold windowYear
  split_ifs
  · rw [Bool.eq_iff_iff, isLeap_eq_true_iff, isLeap_eq_true_iff]
    omega
  · rw [Bool.eq_iff_iff, isLeap_eq_true_iff, isLeap_eq_true_iff]
    omega
  · rfl

theorem daysInMonth_windowYear {y : Int} (h : 0 ≤ y) (m : Nat) :
    daysInMonth (windowYear y) m = daysInMonth y m := by
  simp only [daysInMonth, isLeap_windowYear h]

/-- A year from 1 to 9999 stays in that range through the window. -/
theorem windowYear_bounds {y : Int} (h1 : 1 ≤ y) (h : y ≤ 9999) :
    1 ≤ windowYear y ∧ windowYear y ≤ 9999 := by
  unfold windowYear
  split_ifs <;> omega

/-- The window moves exactly the years below 100. -/
theorem windowYear_eq_self_iff {y : Int} (h : 0 ≤ y) : windowYear y = y ↔ 100 ≤ y := by
  unfold windowYear
  split_ifs <;> omega

/-! ## Texts without a fixed shape -/

/-- A text that starts with a character other than a digit has none of the fixed shapes. -/
theorem find?_fixedShapes_of_not_decimal {c : Char} (hc : isDecimal c = false)
    (rest : List Char) : fixedShapes.find? (fun x => x.1.matchesPrefix (c :: rest)) = none := by
  simp [fixedShapes, Pattern.matchesPrefix, Pattern.matchPrefix, Pattern.times, Pattern.digit,
    List.replicate, hc]

/-- A text that starts with one or two digits and a space has none of the fixed shapes. -/
theorem find?_fixedShapes_of_day {ds : List Char} (hlen : ds.length = 1 ∨ ds.length = 2)
    (hds : ∀ c ∈ ds, c.isDigit = true) (rest : List Char) :
    fixedShapes.find? (fun x => x.1.matchesPrefix (ds ++ ' ' :: rest)) = none := by
  have hspace : isDecimal ' ' = false := by decide
  rcases hlen with hlen | hlen
  · obtain ⟨d1, rfl⟩ := List.length_eq_one_iff.1 hlen
    simp only [List.mem_cons, List.not_mem_nil, or_false, forall_eq] at hds
    simp [fixedShapes, Pattern.matchesPrefix, Pattern.matchPrefix, Pattern.times, Pattern.digit,
      List.replicate, isDecimal_of_isDigit hds, hspace]
  · obtain ⟨d1, d2, rfl⟩ := List.length_eq_two.1 hlen
    simp only [List.mem_cons, List.not_mem_nil, or_false, forall_eq_or_imp, forall_eq] at hds
    simp [fixedShapes, Pattern.matchesPrefix, Pattern.matchPrefix, Pattern.times, Pattern.digit,
      List.replicate, isDecimal_of_isDigit hds.1, isDecimal_of_isDigit hds.2, hspace,
      @beq_digit '/' d2 (by decide) hds.2, @beq_digit '.' d2 (by decide) hds.2]

/-! ## Mail dates -/

/-- A date and time spelled as in a mail header: an optional weekday followed by a comma, the
day in one or two digits, the name of the month, short or long and in any letter case, the year
in four digits and the time as hours and minutes, with seconds optionally, each after a space.
A zone, any text after a further space, may follow. -/
structure MailDate where
  weekday : Option (List Char)
  day : List Char
  month : List Char
  year : List Char
  hour : List Char
  minute : List Char
  second : Option (List Char)
  zone : Option (List Char)
  weekday_letters : ∀ w ∈ weekday, w ≠ [] ∧ ∀ c ∈ w, c.isAlpha = true
  day_digits : (day.length = 1 ∨ day.length = 2) ∧ ∀ c ∈ day, c.isDigit = true
  month_name : lowerWord month ∈ monthNames
  year_digits : year.length = 4 ∧ ∀ c ∈ year, c.isDigit = true
  hour_digits : (hour.length = 1 ∨ hour.length = 2) ∧ ∀ c ∈ hour, c.isDigit = true
  minute_digits : minute.length = 2 ∧ ∀ c ∈ minute, c.isDigit = true
  second_digits : ∀ s ∈ second, s.length = 2 ∧ ∀ c ∈ s, c.isDigit = true

namespace MailDate

/-- The time as one word: hours, minutes and the seconds if any, joined by colons. -/
def clockWord (t : MailDate) : List Char :=
  [':'].intercalate (t.hour :: t.minute :: t.second.toList)

/-- The words of the date before the zone. -/
def dateWords (t : MailDate) : List (List Char) :=
  t.weekday.toList.map (· ++ [',']) ++ [t.day, t.month, t.year, t.clockWord]

/-- The characters of the date: its words joined by spaces, then the zone after a space. -/
def chars (t : MailDate) : List Char :=
  [' '].intercalate t.dateWords ++ (t.zone.map (' ' :: ·)).getD []

/-- The date as text. -/
def text (t : MailDate) : String := String.ofList t.chars

/-- The month a name gives: its place among the month names, where the long names follow the
short ones. -/
def monthNumber (t : MailDate) : Nat := monthNames.idxOf (lowerWord t.month) % 12 + 1

/-- The seconds as written, `0` when they are left out. -/
def secondValue (t : MailDate) : Nat := (t.second.map digitsValue).getD 0

/-- The moment as written. -/
def written (t : MailDate) : Moment :=
  ⟨digitsValue t.year, t.monthNumber, digitsValue t.day, digitsValue t.hour,
    digitsValue t.minute, t.secondValue⟩

/-- The moment as read: the written one with its year taken through the two-digit window. -/
def windowed (t : MailDate) : Moment := { t.written with year := windowYear t.written.year }

/-- The seconds of the time of day. -/
def clockSeconds (t : MailDate) : Nat :=
  3600 * digitsValue t.hour + 60 * digitsValue t.minute + t.secondValue

variable (t : MailDate)

/-! ### The words of a mail date -/

theorem day_ne_nil : t.day ≠ [] := by
  rcases t.day_digits.1 with h | h <;> exact List.ne_nil_of_length_pos (by omega)

theorem year_ne_nil : t.year ≠ [] := List.ne_nil_of_length_pos (by rw [t.year_digits.1]; omega)

theorem hour_ne_nil : t.hour ≠ [] := by
  rcases t.hour_digits.1 with h | h <;> exact List.ne_nil_of_length_pos (by omega)

theorem minute_ne_nil : t.minute ≠ [] :=
  List.ne_nil_of_length_pos (by rw [t.minute_digits.1]; omega)

/-- A month name is made of ASCII letters. -/
theorem month_letters : ∀ c ∈ t.month, c.isAlpha = true :=
  isAlpha_of_lowerWord_mem monthNames_lower t.month_name

theorem month_ne_nil : t.month ≠ [] := by
  intro h
  have hname := t.month_name
  rw [h] at hname
  exact absurd hname (by decide)

/-- The time is the hours, a colon, the minutes and, if there are seconds, a colon and the
seconds. -/
theorem clockWord_eq :
    t.clockWord = t.hour ++ ':' :: (t.minute ++ (t.second.map (':' :: ·)).getD []) := by
  cases hs : t.second <;> simp [clockWord, hs, List.intercalate_cons_cons]

/-- The time is made of digits and colons. -/
theorem clockWord_chars : ∀ c ∈ t.clockWord, c.isDigit = true ∨ c = ':' := by
  intro c hc
  rw [clockWord_eq] at hc
  cases hs : t.second with
  | none =>
    simp only [hs, Option.map_none, Option.getD_none, List.append_nil, List.mem_append,
      List.mem_cons] at hc
    rcases hc with hc | hc | hc
    · exact .inl (t.hour_digits.2 c hc)
    · exact .inr hc
    · exact .inl (t.minute_digits.2 c hc)
  | some s =>
    have hsec := (t.second_digits s (by simp [hs])).2
    simp only [hs, Option.map_some, Option.getD_some, List.mem_append, List.mem_cons] at hc
    rcases hc with hc | hc | hc | hc | hc
    · exact .inl (t.hour_digits.2 c hc)
    · exact .inr hc
    · exact .inl (t.minute_digits.2 c hc)
    · exact .inr hc
    · exact .inl (hsec c hc)

/-- Every word of the date is a run of characters other than blanks. -/
theorem dateWords_nonblank : ∀ w ∈ t.dateWords, w ≠ [] ∧ ∀ c ∈ w, isBlank c = false := by
  intro w hw
  simp only [dateWords, List.mem_append, List.mem_map, Option.mem_toList, List.mem_cons,
    List.not_mem_nil, or_false] at hw
  rcases hw with ⟨v, hv, rfl⟩ | rfl | rfl | rfl | rfl
  · obtain ⟨-, hletters⟩ := t.weekday_letters v hv
    refine ⟨by simp, fun c hc => ?_⟩
    rcases List.mem_append.1 hc with hc | hc
    · exact (classes_of_isAlpha (hletters c hc)).2.1
    · rw [List.mem_singleton.1 hc]
      decide
  · exact ⟨t.day_ne_nil, fun c hc => isBlank_of_isDigit (t.day_digits.2 c hc)⟩
  · exact ⟨t.month_ne_nil, fun c hc => (classes_of_isAlpha (t.month_letters c hc)).2.1⟩
  · exact ⟨t.year_ne_nil, fun c hc => isBlank_of_isDigit (t.year_digits.2 c hc)⟩
  · refine ⟨by simp [clockWord_eq, t.hour_ne_nil], fun c hc => ?_⟩
    rcases t.clockWord_chars c hc with hc | rfl
    · exact isBlank_of_isDigit hc
    · decide

/-- The words of a mail date are its date words, then those of its zone. -/
theorem words_chars : ∃ zw, words t.chars = t.dateWords ++ zw := by
  cases hz : t.zone with
  | none =>
    refine ⟨[], ?_⟩
    simp only [chars, hz, Option.map_none, Option.getD_none, List.append_nil]
    exact words_intercalate t.dateWords_nonblank
  | some z =>
    refine ⟨words z, ?_⟩
    simp only [chars, hz, Option.map_some, Option.getD_some]
    rw [words_append_blank (by decide), words_intercalate t.dateWords_nonblank]

/-! ### Reading the words -/

/-- The weekday, a word that ends in a comma, is dropped; a day is kept as it is. -/
theorem dropWeekday_dateWords (zw : List (List Char)) :
    dropWeekday (t.dateWords ++ zw) = t.day :: t.month :: t.year :: t.clockWord :: zw := by
  cases hw : t.weekday with
  | some w => simp [dateWords, hw, dropWeekday]
  | none =>
    have hcomma : ',' ∉ t.day := fun h => absurd (t.day_digits.2 _ h) (by decide)
    have hlast : t.day.getLast? ≠ some ',' := fun h => hcomma (List.mem_of_mem_getLast? h)
    -- a day of digits is no weekday name, which has letters only
    have hname : lowerWord t.day ∉ dayNames := fun h => by
      obtain ⟨c, hc⟩ := List.exists_mem_of_ne_nil _ t.day_ne_nil
      have hletter := isAlpha_of_lowerWord_mem dayNames_lower h c hc
      rw [(classes_of_isDigit (t.day_digits.2 c hc)).2.2] at hletter
      exact Bool.false_ne_true hletter
    have hcut : (t.day.reverse.takeWhile (· != ',')).reverse = t.day := by
      rw [List.takeWhile_eq_self_iff.2, List.reverse_reverse]
      intro c hc
      have hne : c ≠ ',' := by
        rintro rfl
        exact hcomma (List.mem_reverse.1 hc)
      simpa using hne
    simp [dateWords, hw, dropWeekday, hlast, hname, hcut]

/-- Without a zone the reading adds an empty one, since the time has no sign in it. -/
theorem splitZone_dateWords (zw : List (List Char)) :
    ∃ tz rest, splitZone (t.day :: t.month :: t.year :: t.clockWord :: zw) =
      t.day :: t.month :: t.year :: t.clockWord :: tz :: rest := by
  cases zw with
  | cons tz rest => exact ⟨tz, rest, rfl⟩
  | nil =>
    have hsign : ∀ c, c ∈ t.clockWord → c ≠ '+' ∧ c ≠ '-' := by
      intro c hc
      rcases t.clockWord_chars c hc with hd | rfl
      · constructor <;> rintro rfl <;> exact absurd hd (by decide)
      · decide
    have hplus : findChar t.clockWord '+' = none :=
      List.idxOf?_eq_none_iff.2 fun h => (hsign _ h).1 rfl
    have hminus : findChar t.clockWord '-' = none :=
      List.idxOf?_eq_none_iff.2 fun h => (hsign _ h).2 rfl
    exact ⟨[], [], by simp [splitZone, hplus, hminus]⟩

/-- The month name is read as the month it names. -/
theorem monthOf?_month : monthOf? (lowerWord t.month) = some t.monthNumber := by
  have hlt := List.idxOf_lt_length_of_mem t.month_name
  have hlen : monthNames.length = 24 := rfl
  rw [monthOf?, idxOf?_eq_some_idxOf t.month_name, Option.map_some, monthNumber]
  congr 1
  split <;> omega

/-- The time is read as its hours, minutes and seconds, the seconds `0` when left out. -/
theorem timeParts_clockWord :
    timeParts (dropComma t.clockWord) = some (t.hour, t.minute, t.second.getD ['0']) := by
  have hcolon : ∀ w ∈ t.hour :: t.minute :: t.second.toList, ':' ∉ w := by
    intro w hw hc
    simp only [List.mem_cons, Option.mem_toList] at hw
    rcases hw with rfl | rfl | hs
    · exact absurd (t.hour_digits.2 _ hc) (by decide)
    · exact absurd (t.minute_digits.2 _ hc) (by decide)
    · exact absurd ((t.second_digits w hs).2 _ hc) (by decide)
  have hcomma : ',' ∉ t.clockWord := fun h => by
    rcases t.clockWord_chars _ h with hd | hd
    · exact absurd hd (by decide)
    · exact absurd hd (by decide)
  rw [dropComma_of_not_mem hcomma, timeParts, splitAt, clockWord,
    List.splitOn_intercalate ':' hcolon (List.cons_ne_nil _ _)]
  cases t.second <;> rfl

/-- The seconds word the reading takes is read as the seconds. -/
theorem wordValue?_second : wordValue? (t.second.getD ['0']) = some (t.secondValue : Int) := by
  cases hs : t.second with
  | none =>
    simp only [Option.getD_none, secondValue, hs, Option.map_none]
    exact @wordValue?_digits ['0'] (by simp) fun c hc => by rw [List.mem_singleton.1 hc]; rfl
  | some s =>
    have hdigits := t.second_digits s (by simp [hs])
    simp only [Option.getD_some, secondValue, hs, Option.map_some]
    exact wordValue?_digits (List.ne_nil_of_length_pos (by rw [hdigits.1]; omega)) hdigits.2

/-- A mail date is read as its written parts, with the year taken through the two-digit
window. -/
theorem readMailParts_text :
    readMailParts t.text = some (windowYear (digitsValue t.year), t.monthNumber,
      (digitsValue t.day : Int), (digitsValue t.hour : Int), (digitsValue t.minute : Int),
      (t.secondValue : Int)) := by
  obtain ⟨zw, hw⟩ := t.words_chars
  obtain ⟨tz, rest, hz⟩ := t.splitZone_dateWords zw
  have hdigit : ∀ c ∈ t.year ++ t.day, c ≠ ',' ∧ c ≠ ':' := by
    intro c hc
    have hd : c.isDigit = true := by
      rcases List.mem_append.1 hc with hc | hc
      · exact t.year_digits.2 c hc
      · exact t.day_digits.2 c hc
    constructor <;> rintro rfl <;> exact absurd hd (by decide)
  have hcolon : findChar t.year ':' = none :=
    List.idxOf?_eq_none_iff.2 fun h => (hdigit ':' (List.mem_append_left _ h)).2 rfl
  have hyear : dropComma t.year = t.year :=
    dropComma_of_not_mem fun h => (hdigit ',' (List.mem_append_left _ h)).1 rfl
  have hday : dropComma t.day = t.day :=
    dropComma_of_not_mem fun h => (hdigit ',' (List.mem_append_right _ h)).1 rfl
  -- the year starts with a digit, so it does not change places with the zone
  obtain ⟨y, ys, hys⟩ := List.exists_cons_of_ne_nil t.year_ne_nil
  have hy : isDigitLike y = true :=
    (classes_of_isDigit (t.year_digits.2 y (by simp [hys]))).2.1
  have hhead : t.year.head? = some y := by rw [hys]; rfl
  have hwindow : windowYear (digitsValue t.year) =
      if (digitsValue t.year : Int) < 100 then
        (if (digitsValue t.year : Int) > 68 then (digitsValue t.year : Int) + 1900
          else (digitsValue t.year : Int) + 2000)
      else (digitsValue t.year : Int) := by
    unfold windowYear
    split_ifs <;> omega
  simp only [readMailParts, text, String.toList_ofList, hw, dropWeekday_dateWords,
    expandDashed_of_four, hz, Option.bind_eq_bind, Option.bind_some, monthOf?_month, hcolon,
    hyear, hday, timeParts_clockWord, wordValue?_digits t.year_ne_nil t.year_digits.2,
    wordValue?_digits t.day_ne_nil t.day_digits.2, wordValue?_digits t.hour_ne_nil t.hour_digits.2,
    wordValue?_digits t.minute_ne_nil t.minute_digits.2, wordValue?_second,
    List.isEmpty_eq_false_iff.2 t.day_ne_nil, List.isEmpty_eq_false_iff.2 t.month_ne_nil,
    List.isEmpty_eq_false_iff.2 t.year_ne_nil, hhead, hy, Bool.or_false, if_true,
    Bool.false_eq_true, if_false, Option.pure_def]
  rw [hwindow]

/-- The window keeps a valid moment valid. -/
theorem windowed_valid (h : t.written.Valid) : t.windowed.Valid := by
  obtain ⟨⟨hm1, hm12, hd1, hdim⟩, hy1, hy9999, hh, hmi, hs⟩ := h
  have hwin := windowYear_bounds hy1 hy9999
  have hdays := @daysInMonth_windowYear t.written.year (by omega) t.written.month
  refine ⟨⟨hm1, hm12, hd1, ?_⟩, hwin.1, hwin.2, hh, hmi, hs⟩
  simp only [Moment.toDay, windowed] at hdim ⊢
  omega

/-- The window changes the day exactly when the year is below 100. -/
theorem windowed_toDay_eq_iff :
    t.windowed.toDay = t.written.toDay ↔ 100 ≤ digitsValue t.year := by
  have hy := @windowYear_eq_self_iff (digitsValue t.year) (by omega)
  simp only [Moment.toDay, windowed, written, Day.mk.injEq, and_true]
  omega

/-- A valid mail date is read as its moment with the year taken through the window. -/
theorem readMailDate_text (h : t.written.Valid) : readMailDate t.text = .ok t.windowed := by
  have hmake := Moment.make_eq_ok (t.windowed_valid h)
  rw [readMailDate, readMailParts_text]
  exact hmake

/-! ### The shape of a mail date -/

/-- The characters of a mail date, field by field. -/
theorem chars_eq : t.chars = (t.weekday.map (· ++ [',', ' '])).getD [] ++ (t.day ++ ' ' ::
    (t.month ++ ' ' :: (t.year ++ ' ' :: (t.clockWord ++ (t.zone.map (' ' :: ·)).getD [])))) := by
  cases hw : t.weekday <;> simp [chars, dateWords, hw, List.intercalate_cons_cons]

/-- A mail date has none of the fixed shapes: it starts with a letter or with a day and a
space. -/
theorem find?_fixedShapes_chars :
    fixedShapes.find? (fun x => x.1.matchesPrefix t.chars) = none := by
  rw [chars_eq]
  cases hw : t.weekday with
  | none =>
    simp only [Option.map_none, Option.getD_none, List.nil_append]
    exact find?_fixedShapes_of_day t.day_digits.1 t.day_digits.2 _
  | some w =>
    obtain ⟨hne, hletters⟩ := t.weekday_letters w (by simp [hw])
    obtain ⟨a, w', rfl⟩ := List.exists_cons_of_ne_nil hne
    simp only [Option.map_some, Option.getD_some, List.cons_append]
    exact find?_fixedShapes_of_not_decimal (classes_of_isAlpha (hletters a (by simp))).2.2 _

section Shapes

variable {α : Type} {fuel : Nat} {gs : Groups} {k : List Char → Groups → Option α}

/-- The time of a mail date has the time shape, whatever follows it. -/
theorem run_timeShape_clockWord (hk : ∀ r gs, (k r gs).isSome) (rest : List Char) :
    (timeShape.run fuel (t.clockWord ++ rest) gs k).isSome := by
  obtain ⟨m1, m2, hm⟩ := List.length_eq_two.1 t.minute_digits.1
  have hmd := t.minute_digits.2
  rw [hm] at hmd
  simp only [List.mem_cons, List.not_mem_nil, or_false, forall_eq_or_imp, forall_eq] at hmd
  have hcolon : isDecimal ':' = false := by decide
  rw [clockWord_eq, hm]
  -- an hour of one digit leaves the optional second digit out, one of two digits takes it
  rcases t.hour_digits with ⟨hlen | hlen, hhd⟩
  · obtain ⟨h1, hh⟩ := List.length_eq_one_iff.1 hlen
    rw [hh] at hhd
    simp only [List.mem_cons, List.not_mem_nil, or_false, forall_eq] at hhd
    simp [hh, timeShape, Pattern.digit, isDecimal_of_isDigit hhd, isDecimal_of_isDigit hmd.1,
      isDecimal_of_isDigit hmd.2, hcolon, hk]
  · obtain ⟨h1, h2, hh⟩ := List.length_eq_two.1 hlen
    rw [hh] at hhd
    simp only [List.mem_cons, List.not_mem_nil, or_false, forall_eq_or_imp, forall_eq] at hhd
    simp [hh, timeShape, Pattern.digit, isDecimal_of_isDigit hhd.1, isDecimal_of_isDigit hhd.2,
      isDecimal_of_isDigit hmd.1, isDecimal_of_isDigit hmd.2, hk]

/-- From the day on, a mail date has the rest of the first mail shape. -/
theorem run_mailShape_from_day (hk : ∀ r gs, (k r gs).isSome)
    (hfuel : t.day.length + t.month.length ≤ fuel) (z : List Char) :
    ((Pattern.seqAll [.plus .digit, .lit ' ', .plus .word, .lit ' ', .times 4 .digit,
        .plus .blank, timeShape]).run fuel
      (t.day ++ ' ' :: (t.month ++ ' ' :: (t.year ++ ' ' :: (t.clockWord ++ z)))) gs k).isSome := by
  have hspace : isBlank ' ' = true := by decide
  have hone : [' '].length ≤ fuel := by
    have := List.length_pos_of_ne_nil t.day_ne_nil
    simp only [List.length_singleton]
    omega
  simp only [Pattern.digit, Pattern.word, Pattern.blank]
  rw [run_seqAll_cons]
  refine run_plus_cls_isSome t.day_ne_nil (fun c hc => isDecimal_of_isDigit (t.day_digits.2 c hc))
    (Nat.le_trans (Nat.le_add_right _ _) hfuel) _ ?_
  simp only [run_seqAll_cons, run_lit_cons, beq_self_eq_true, if_true]
  refine run_plus_cls_isSome t.month_ne_nil
    (fun c hc => (classes_of_isAlpha (t.month_letters c hc)).1)
    (Nat.le_trans (Nat.le_add_left _ _) hfuel) _ ?_
  simp only [run_lit_cons, beq_self_eq_true, if_true]
  rw [← t.year_digits.1, run_times_cls _ (fun c hc => isDecimal_of_isDigit (t.year_digits.2 c hc)),
    ← List.singleton_append]
  refine run_plus_cls_isSome (List.cons_ne_nil ' ' []) (by simp [hspace]) hone _ ?_
  simp only [run_seqAll_nil]
  exact run_timeShape_clockWord t hk z

/-- A mail date has the first mail shape: an optional weekday with its comma, then the day, the
month, the year and the time. -/
theorem run_mailShape_chars (hk : ∀ r gs, (k r gs).isSome) (hfuel : t.chars.length ≤ fuel) :
    ((Pattern.seqAll [.opt (.seqAll [.plus .word, .lit ',', .plus .blank]), .plus .digit,
        .lit ' ', .plus .word, .lit ' ', .times 4 .digit, .plus .blank, timeShape]).run fuel
      t.chars gs k).isSome := by
  have hspace : isBlank ' ' = true := by decide
  have hlen := congrArg List.length t.chars_eq
  rw [run_seqAll_cons, run_opt, chars_eq]
  cases hw : t.weekday with
  | none =>
    -- no weekday: the optional part matches nothing
    apply isSome_orElse_of_right
    simp only [hw, Option.map_none, Option.getD_none, List.nil_append] at hlen ⊢
    simp only [List.length_append, List.length_cons] at hlen
    exact run_mailShape_from_day t hk (by omega) _
  | some w =>
    -- a weekday: the optional part takes it with its comma and the space
    apply isSome_orElse_of_left
    obtain ⟨hne, hletters⟩ := t.weekday_letters w (by simp [hw])
    simp only [hw, Option.map_some, Option.getD_some] at hlen ⊢
    simp only [List.length_append, List.length_cons, List.length_nil] at hlen
    simp only [List.append_assoc, List.cons_append, List.nil_append]
    rw [run_seqAll_cons]
    refine run_plus_cls_isSome hne (fun c hc => (classes_of_isAlpha (hletters c hc)).1)
      (by omega) _ ?_
    rw [run_seqAll_cons, run_lit_cons, if_pos (beq_self_eq_true ','), run_seqAll_cons,
      ← List.singleton_append]
    refine run_plus_cls_isSome (List.cons_ne_nil ' ' []) (by simp [hspace]) (by simp; omega) _ ?_
    rw [run_seqAll_nil]
    exact run_mailShape_from_day t hk (by omega) _

end Shapes

/-- A mail date takes the mail-date route: it has no fixed shape, and it has the first mail
shape. -/
theorem dateOf?_text : dateOf? t.text = some <$> readMailDate t.text := by
  have hany : (mailShapes.any fun p => p.matchesPrefix t.chars) = true := by
    simp only [mailShapes, List.any_cons, Pattern.matchesPrefix, Pattern.matchPrefix]
    rw [run_mailShape_chars t (fun _ _ => rfl) (Nat.le_succ _), Bool.true_or]
  simp only [dateOf?, text, String.toList_ofList, find?_fixedShapes_chars, hany, if_true]

end MailDate

end Tabula.Date

namespace Tabula.Tool

open Tabula.Query Tabula.Date Tabula.Decimal

variable (kit : Toolkit)

/-! ## Converting mail dates -/

/-- A mail date of a valid moment converts to the seconds of its moment, the year taken through
the two-digit window. -/
theorem convertText_mailDate (t : MailDate) (h : t.written.Valid) :
    convertText kit .date t.text =
      .ok (.float (Binary.ofInt (86400 * t.windowed.toDay.number + t.clockSeconds))) := by
  rw [@convertText_date_of_some kit _ t.windowed
      (by rw [t.dateOf?_text, t.readMailDate_text h]; rfl),
    Moment.epochSeconds_eq, MailDate.clockSeconds]
  congr 3
  simp only [MailDate.windowed, MailDate.written]
  push_cast
  ring

/-- A mail date of a valid moment from the year 1 on converts to the value of the `YYYY-MM-DD`
spelling of its day plus the seconds of its time of day, whatever its weekday, the letter case
of its month and its zone, where the day is read with its year taken through the two-digit
window. The window changes the day, and so the value, exactly when the year is below 100. -/
theorem convertText_mailDate_windowed (t : MailDate) (h : t.written.Valid) :
    ∃ k k' : Int,
      convertText kit .date (NumericDate.ofDay t.windowed.toDay).text =
        .ok (.float (Binary.ofInt k)) ∧
      convertText kit .date (NumericDate.ofDay t.written.toDay).text =
        .ok (.float (Binary.ofInt k')) ∧
      convertText kit .date t.text = .ok (.float (Binary.ofInt (k + t.clockSeconds))) ∧
      (k = k' ↔ 100 ≤ digitsValue t.year) := by
  have hw := t.windowed_valid h
  refine ⟨_, _, convertText_ofDay kit hw.1 hw.2.1 hw.2.2.1,
    convertText_ofDay kit h.1 h.2.1 h.2.2.1,
    convertText_mailDate kit t h, ?_⟩
  -- two days of the calendar have the same count of days only when they are the same day
  rw [mul_right_inj' (by norm_num), Day.number_inj hw.1 h.1, t.windowed_toDay_eq_iff]

/-- `Mon, 20 Dec 2004 08:37:31 GMT` converts to the value of `2004-12-20` plus the seconds of
8:37:31. -/
theorem convertText_mailDate_windowed_dec2004 :
    let t : MailDate := ⟨some ['M', 'o', 'n'], ['2', '0'], ['D', 'e', 'c'], ['2', '0', '0', '4'],
      ['0', '8'], ['3', '7'], some ['3', '1'], some ['G', 'M', 'T'],
      by simp [Char.isAlpha, Char.isUpper, Char.isLower], by simp [Char.isDigit], by decide,
      by simp [Char.isDigit], by simp [Char.isDigit], by simp [Char.isDigit],
      by simp [Char.isDigit]⟩
    t.written.Valid ∧ ∃ k k' : Int,
      convertText .unavailable .date (NumericDate.ofDay t.windowed.toDay).text =
        .ok (.float (Binary.ofInt k)) ∧
      convertText .unavailable .date (NumericDate.ofDay t.written.toDay).text =
        .ok (.float (Binary.ofInt k')) ∧
      convertText .unavailable .date t.text = .ok (.float (Binary.ofInt (k + t.clockSeconds))) ∧
      (k = k' ↔ 100 ≤ digitsValue t.year) :=
  ⟨by decide, convertText_mailDate_windowed .unavailable _ (by decide)⟩

/-- The year 1 written with four digits is read as 2001 in a mail date: `1 Jan 0001 00:00`
converts to the first second of 2001, and `0001-01-01` to the first second of the year 1. -/
theorem convertText_mailDate_year_one :
    convertText .unavailable .date "1 Jan 0001 00:00" = .ok (.float (Binary.ofInt 978307200)) ∧
    convertText .unavailable .date "0001-01-01" = .ok (.float (Binary.ofInt (-62135596800))) ∧
    Binary.ofInt 978307200 ≠ Binary.ofInt (-62135596800) := by
  let t : MailDate := ⟨none, ['1'], ['J', 'a', 'n'], ['0', '0', '0', '1'], ['0', '0'],
    ['0', '0'], none, none, by simp, by simp [Char.isDigit], by decide, by simp [Char.isDigit],
    by simp [Char.isDigit], by simp [Char.isDigit], by simp⟩
  have ht : t.text = "1 Jan 0001 00:00" := by decide
  have hv : (NumericDate.ofDay ⟨1, 1, 1⟩).text = "0001-01-01" := by decide
  -- 2001-01-01 is 11323 days after 1970-01-01, and 0001-01-01 is 719162 days before it
  have hmail : 86400 * t.windowed.toDay.number + (t.clockSeconds : Int) = 978307200 := by decide
  have hiso : 86400 * (⟨1, 1, 1⟩ : Day).number = -62135596800 := by decide
  refine ⟨?_, ?_, ?_⟩
  · rw [← ht, convertText_mailDate .unavailable t (by decide), hmail]
  · rw [← hv, convertText_ofDay .unavailable (by decide) (by decide) (by decide), hiso]
  · rw [Ne, Binary.ofInt_inj (by norm_num) (by norm_num)]
    decide

end Tabula.Tool
