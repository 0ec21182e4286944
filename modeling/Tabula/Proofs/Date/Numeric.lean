import Mathlib
import Tabula.Tool.Query
import Tabula.Proofs.Date.Fields
import Tabula.Proofs.Date.Moment
import Tabula.Proofs.Binary.Integers

/-!
# Numeric dates

A numeric date is written with ASCII digits in one of four layouts: `YYYY-MM-DD`, `D/MM/YYYY`
or `DD/MM/YYYY`, the same with points, and `YYYYMMDD` (`NumericDate`). Each layout has its own
fixed shape, and the first shape that matches a numeric date is the one of its layout
(`find?_fixedShapes`), so the date is read with the layout's format (`NumericDate.dateOf?_text`).

The format matches the whole date exactly when its month is from 1 to 12 and its day from 1 to
31 (`matchPrefix_whole`); in `YYYYMMDD` a month that does not fit makes the format try a month
of one digit, which always leaves a digit unread, so the whole matches are those of `YYYY-MM-DD`
(`matchPrefix_compact_eq_whole`). The moment of the digits is then made or refused by the
calendar (`NumericDate.moment_valid_iff`).

The conversion of a date cell therefore turns a numeric date into the seconds of its midnight
when it names a day of the calendar from the year 1 on, and refuses it for its value otherwise
(`convertText_numericDate`). The seconds are held exactly by a double, so two numeric dates
convert to equal values exactly when they name the same day, and to values ordered as their days
(`convertText_numericDate_spec`).

Every day of the years 1 to 9999 has a `YYYY-MM-DD` spelling (`NumericDate.ofDay`), which
converts to the seconds of its midnight (`convertText_ofDay`).
-/

namespace Tabula.Date

open Tabula.Text Tabula.Decimal

/-! ## Layouts -/

/-- How the digits of a numeric date are laid out. -/
inductive NumericLayout where
  /-- Year, month and day, separated by dashes. -/
  | iso
  /-- Day, month and year, separated by slashes. -/
  | slashed
  /-- Day, month and year, separated by points. -/
  | dotted
  /-- Year, month and day without separators. -/
  | compact
  deriving DecidableEq

/-- The layouts that put the day first, where it may have a single digit. -/
def NumericLayout.dayFirst : NumericLayout → Bool
  | .slashed | .dotted => true
  | _ => false

/-- The format a layout is read with. -/
def NumericLayout.format : NumericLayout → DateFormat
  | .iso => [.field .year, .lit '-', .field .month, .lit '-', .field .day]
  | .slashed => [.field .day, .lit '/', .field .month, .lit '/', .field .year]
  | .dotted => [.field .day, .lit '.', .field .month, .lit '.', .field .year]
  | .compact => [.field .year, .field .month, .field .day]

/-- A date written in ASCII digits in one of the numeric layouts: a year of four digits, a
month of two and a day of two, or of one where the day comes first. -/
structure NumericDate where
  layout : NumericLayout
  year : List Char
  month : List Char
  day : List Char
  year_digits : year.length = 4 ∧ ∀ c ∈ year, c.isDigit = true
  month_digits : month.length = 2 ∧ ∀ c ∈ month, c.isDigit = true
  day_digits : (day.length = 2 ∨ day.length = 1 ∧ layout.dayFirst = true) ∧
    ∀ c ∈ day, c.isDigit = true

namespace NumericDate

/-- The characters of the date. -/
def chars (t : NumericDate) : List Char :=
  match t.layout with
  | .iso => t.year ++ '-' :: t.month ++ '-' :: t.day
  | .slashed => t.day ++ '/' :: t.month ++ '/' :: t.year
  | .dotted => t.day ++ '.' :: t.month ++ '.' :: t.year
  | .compact => t.year ++ t.month ++ t.day

/-- The date as text. -/
def text (t : NumericDate) : String := String.ofList t.chars

/-- The day the digits name. -/
def date (t : NumericDate) : Day := ⟨digitsValue t.year, digitsValue t.month, digitsValue t.day⟩

/-- The month and the day are in the ranges their fields take: `1` to `12` and `1` to `31`. -/
def FieldsFit (t : NumericDate) : Prop :=
  1 ≤ digitsValue t.month ∧ digitsValue t.month ≤ 12 ∧ 1 ≤ digitsValue t.day ∧
    digitsValue t.day ≤ 31

end NumericDate

/-! ## Matching the layouts -/

/-- The layout `YYYY-MM-DD`: a month that does not fit leaves no match, and a day of two
digits that does not fit leaves its second digit unread. -/
theorem matchPrefix_iso {ys : List Char} (hy : ys.length = 4 ∧ ∀ c ∈ ys, c.isDigit = true)
    {m1 m2 d1 d2 : Char} (hm1 : m1.isDigit = true) (hm2 : m2.isDigit = true)
    (hd1 : d1.isDigit = true) (hd2 : d2.isDigit = true) :
    (formatPattern NumericLayout.iso.format).matchPrefix (ys ++ ['-', m1, m2, '-', d1, d2]) =
      if 1 ≤ digitsValue [m1, m2] ∧ digitsValue [m1, m2] ≤ 12 then
        ((if 1 ≤ digitsValue [d1, d2] ∧ digitsValue [d1, d2] ≤ 31 then
          some ([], [("d", [d1, d2]), ("m", [m1, m2]), ("Y", ys)]) else none).orElse fun _ =>
          if 1 ≤ digitsValue [d1] then some ([d2], [("d", [d1]), ("m", [m1, m2]), ("Y", ys)])
          else none)
      else none := by
  simp only [Pattern.matchPrefix, NumericLayout.format, formatPattern, List.map, run_seqAll_cons,
    run_seqAll_nil, run_year_field hy.1 hy.2, run_lit_cons, beq_self_eq_true, if_true]
  have hsep : ('-' == m2) = false := beq_digit (by decide : ('-' : Char).isDigit = false) hm2
  rw [run_month_field hm1 hm2]
  simp only [run_lit_cons, beq_self_eq_true, if_true, hsep, Bool.false_eq_true, if_false,
    ite_self, orElse_none_right]
  rw [run_day_field hd1 (isDigit_toNat_lt hd2), hd2]
  simp only [true_and]


/-- The slashed and dotted layouts with a day of two digits. -/
theorem matchPrefix_dayFirst_two {sep : Char} (hsep : sep.isDigit = false)
    {ys : List Char} (hy : ys.length = 4 ∧ ∀ c ∈ ys, c.isDigit = true)
    {m1 m2 d1 d2 : Char} (hm1 : m1.isDigit = true) (hm2 : m2.isDigit = true)
    (hd1 : d1.isDigit = true) (hd2 : d2.isDigit = true) :
    (formatPattern [.field .day, .lit sep, .field .month, .lit sep, .field .year]).matchPrefix
        ([d1, d2, sep, m1, m2, sep] ++ ys) =
      if 1 ≤ digitsValue [d1, d2] ∧ digitsValue [d1, d2] ≤ 31 then
        if 1 ≤ digitsValue [m1, m2] ∧ digitsValue [m1, m2] ≤ 12 then
          some ([], [("Y", ys), ("m", [m1, m2]), ("d", [d1, d2])])
        else none
      else none := by
  have hsd2 : (sep == d2) = false := beq_digit hsep hd2
  have hsm2 : (sep == m2) = false := beq_digit hsep hm2
  simp only [Pattern.matchPrefix, formatPattern, List.map, run_seqAll_cons, run_seqAll_nil,
    List.cons_append]
  rw [run_day_field hd1 (isDigit_toNat_lt hd2), hd2]
  simp only [true_and, run_lit_cons, hsd2, Bool.false_eq_true, if_false, ite_self,
    orElse_none_right, beq_self_eq_true, if_true]
  rw [run_month_field hm1 hm2]
  simp only [run_lit_cons, hsm2, Bool.false_eq_true, if_false, ite_self, orElse_none_right,
    beq_self_eq_true, if_true, List.nil_append]
  rw [run_year_field_end hy.1 hy.2]

/-- The slashed and dotted layouts with a day of one digit. -/
theorem matchPrefix_dayFirst_one {sep : Char} (hsep : sep.isDigit = false) (hsep' : sep.toNat < 128)
    {ys : List Char} (hy : ys.length = 4 ∧ ∀ c ∈ ys, c.isDigit = true)
    {m1 m2 d1 : Char} (hm1 : m1.isDigit = true) (hm2 : m2.isDigit = true)
    (hd1 : d1.isDigit = true) :
    (formatPattern [.field .day, .lit sep, .field .month, .lit sep, .field .year]).matchPrefix
        ([d1, sep, m1, m2, sep] ++ ys) =
      if 1 ≤ digitsValue [d1] then
        if 1 ≤ digitsValue [m1, m2] ∧ digitsValue [m1, m2] ≤ 12 then
          some ([], [("Y", ys), ("m", [m1, m2]), ("d", [d1])])
        else none
      else none := by
  have hsm2 : (sep == m2) = false := beq_digit hsep hm2
  simp only [Pattern.matchPrefix, formatPattern, List.map, run_seqAll_cons, run_seqAll_nil,
    List.cons_append]
  rw [run_day_field hd1 hsep', hsep]
  simp only [Bool.false_eq_true, false_and, if_false, run_lit_cons, beq_self_eq_true, if_true]
  rw [run_month_field hm1 hm2]
  simp only [run_lit_cons, hsm2, Bool.false_eq_true, if_false, ite_self, orElse_none_right,
    beq_self_eq_true, if_true, List.nil_append, Option.orElse_none]
  rw [run_year_field_end hy.1 hy.2]


/-- The compact layout: after a month of two digits that does not fit, a month of one digit
is tried, and the day read from the digits after it. -/
theorem matchPrefix_compact {ys : List Char} (hy : ys.length = 4 ∧ ∀ c ∈ ys, c.isDigit = true)
    {m1 m2 d1 d2 : Char} (hm1 : m1.isDigit = true) (hm2 : m2.isDigit = true)
    (hd1 : d1.isDigit = true) (hd2 : d2.isDigit = true) :
    (formatPattern NumericLayout.compact.format).matchPrefix (ys ++ [m1, m2, d1, d2]) =
      ((if 1 ≤ digitsValue [m1, m2] ∧ digitsValue [m1, m2] ≤ 12 then
        ((if 1 ≤ digitsValue [d1, d2] ∧ digitsValue [d1, d2] ≤ 31 then
          some ([], [("d", [d1, d2]), ("m", [m1, m2]), ("Y", ys)]) else none).orElse fun _ =>
          if 1 ≤ digitsValue [d1] then some ([d2], [("d", [d1]), ("m", [m1, m2]), ("Y", ys)])
          else none)
      else none).orElse fun _ =>
        if 1 ≤ digitsValue [m1] then
          ((if 1 ≤ digitsValue [m2, d1] ∧ digitsValue [m2, d1] ≤ 31 then
            some ([d2], [("d", [m2, d1]), ("m", [m1]), ("Y", ys)]) else none).orElse fun _ =>
            if 1 ≤ digitsValue [m2] then some ([d1, d2], [("d", [m2]), ("m", [m1]), ("Y", ys)])
            else none)
        else none) := by
  simp only [Pattern.matchPrefix, NumericLayout.format, formatPattern, List.map, run_seqAll_cons,
    run_seqAll_nil, run_year_field hy.1 hy.2]
  rw [run_month_field hm1 hm2, run_day_field hd1 (isDigit_toNat_lt hd2), hd2,
    run_day_field hm2 (isDigit_toNat_lt hd1), hd1]
  simp only [true_and]

/-- After a first choice, a second choice that always leaves characters unread adds no whole
match. -/
theorem orElse_eq_whole {x y : Option (List Char × Groups)} (hy : ∀ gs, y ≠ some ([], gs))
    (gs : Groups) : (x.orElse fun _ => y) = some ([], gs) ↔ x = some ([], gs) := by
  cases x with
  | none => simpa using hy gs
  | some _ => exact Iff.rfl

/-- The compact layout matches the whole of a date exactly as `YYYY-MM-DD` does: its second
choice, a month of one digit, always leaves a digit unread. -/
theorem matchPrefix_compact_eq_whole {ys : List Char}
    (hy : ys.length = 4 ∧ ∀ c ∈ ys, c.isDigit = true) {m1 m2 d1 d2 : Char}
    (hm1 : m1.isDigit = true) (hm2 : m2.isDigit = true) (hd1 : d1.isDigit = true)
    (hd2 : d2.isDigit = true) (gs : Groups) :
    (formatPattern NumericLayout.compact.format).matchPrefix (ys ++ [m1, m2, d1, d2]) =
        some ([], gs) ↔
      (formatPattern NumericLayout.iso.format).matchPrefix (ys ++ ['-', m1, m2, '-', d1, d2]) =
        some ([], gs) := by
  rw [matchPrefix_compact hy hm1 hm2 hd1 hd2, matchPrefix_iso hy hm1 hm2 hd1 hd2, orElse_eq_whole]
  intro gs
  split_ifs <;> simp

/-- The groups a whole match leaves: the year, the month and the day, each under its key. -/
def GroupsOf (gs : Groups) (y m d : List Char) : Prop :=
  gs.lookup Field.year.key = some y ∧ gs.lookup Field.month.key = some m ∧
    gs.lookup Field.day.key = some d

/-- The format of a layout matches the whole of a date exactly when its month and its day fit
their fields, and then it keeps the year, the month and the day in its groups. -/
theorem matchPrefix_whole (t : NumericDate) :
    (t.FieldsFit → ∃ gs, (formatPattern t.layout.format).matchPrefix t.chars = some ([], gs)) ∧
      ∀ gs, (formatPattern t.layout.format).matchPrefix t.chars = some ([], gs) →
        t.FieldsFit ∧ GroupsOf gs t.year t.month t.day := by
  obtain ⟨layout, ys, ms, ds, hy, ⟨hmlen, hmd⟩, ⟨hdlen, hdd⟩⟩ := t
  obtain ⟨m1, m2, rfl⟩ := List.length_eq_two.1 hmlen
  obtain ⟨hm1, hm2⟩ : m1.isDigit = true ∧ m2.isDigit = true := by simpa using hmd
  rcases hdlen with hdlen | ⟨hdlen, hfirst⟩
  · obtain ⟨d1, d2, rfl⟩ := List.length_eq_two.1 hdlen
    obtain ⟨hd1, hd2⟩ : d1.isDigit = true ∧ d2.isDigit = true := by simpa using hdd
    cases layout with
    | iso =>
      rw [show NumericDate.chars _ = ys ++ ['-', m1, m2, '-', d1, d2] by simp [NumericDate.chars],
        matchPrefix_iso hy hm1 hm2 hd1 hd2]
      simp only [NumericDate.FieldsFit]
      split_ifs <;> simp [GroupsOf, Field.key, List.lookup] <;> omega
    | slashed =>
      rw [show NumericDate.chars _ = [d1, d2, '/', m1, m2, '/'] ++ ys by simp [NumericDate.chars],
        NumericLayout.format, matchPrefix_dayFirst_two (by decide) hy hm1 hm2 hd1 hd2]
      simp only [NumericDate.FieldsFit]
      split_ifs <;> simp [GroupsOf, Field.key, List.lookup] <;> omega
    | dotted =>
      rw [show NumericDate.chars _ = [d1, d2, '.', m1, m2, '.'] ++ ys by simp [NumericDate.chars],
        NumericLayout.format, matchPrefix_dayFirst_two (by decide) hy hm1 hm2 hd1 hd2]
      simp only [NumericDate.FieldsFit]
      split_ifs <;> simp [GroupsOf, Field.key, List.lookup] <;> omega
    | compact =>
      rw [show NumericDate.chars _ = ys ++ [m1, m2, d1, d2] by simp [NumericDate.chars]]
      simp only [matchPrefix_compact_eq_whole hy hm1 hm2 hd1 hd2]
      rw [matchPrefix_iso hy hm1 hm2 hd1 hd2]
      simp only [NumericDate.FieldsFit]
      split_ifs <;> simp [GroupsOf, Field.key, List.lookup] <;> omega
  · obtain ⟨d1, rfl⟩ := List.length_eq_one_iff.1 hdlen
    have hd1 : d1.isDigit = true := by simpa using hdd
    -- a day of one digit is at most 9, so it always fits below 31
    have hd9 : digitsValue [d1] ≤ 9 := by
      rw [digitsValue_single]
      have := (isDigit_iff_toNat d1).1 hd1
      omega
    cases layout with
    | iso | compact => exact absurd hfirst (by decide)
    | slashed =>
      rw [show NumericDate.chars _ = [d1, '/', m1, m2, '/'] ++ ys by simp [NumericDate.chars],
        NumericLayout.format, matchPrefix_dayFirst_one (by decide) (by decide) hy hm1 hm2 hd1]
      simp only [NumericDate.FieldsFit]
      split_ifs <;> simp [GroupsOf, Field.key, List.lookup] <;> omega
    | dotted =>
      rw [show NumericDate.chars _ = [d1, '.', m1, m2, '.'] ++ ys by simp [NumericDate.chars],
        NumericLayout.format, matchPrefix_dayFirst_one (by decide) (by decide) hy hm1 hm2 hd1]
      simp only [NumericDate.FieldsFit]
      split_ifs <;> simp [GroupsOf, Field.key, List.lookup] <;> omega


/-- The fixed shapes tell the layouts apart: the first shape that matches a numeric date is the
one of its layout, and it is read with the layout's format. -/
theorem find?_fixedShapes (t : NumericDate) :
    ∃ p, fixedShapes.find? (fun x => x.1.matchesPrefix t.chars) = some (p, t.layout.format) := by
  obtain ⟨layout, ys, ms, ds, ⟨hylen, hyd⟩, ⟨hmlen, hmd⟩, ⟨hdlen, hdd⟩⟩ := t
  obtain ⟨y1, y2, y3, y4, rfl⟩ := List.length_eq_four.1 hylen
  obtain ⟨m1, m2, rfl⟩ := List.length_eq_two.1 hmlen
  simp only [List.mem_cons, List.not_mem_nil, or_false, forall_eq_or_imp, forall_eq] at hyd hmd
  rcases hdlen with hdlen | ⟨hdlen, hfirst⟩
  · obtain ⟨d1, d2, rfl⟩ := List.length_eq_two.1 hdlen
    simp only [List.mem_cons, List.not_mem_nil, or_false, forall_eq_or_imp, forall_eq] at hdd
    cases layout <;>
      simp [NumericDate.chars, NumericLayout.format, fixedShapes, Pattern.matchesPrefix,
        Pattern.matchPrefix, Pattern.times, Pattern.digit, List.replicate, isDecimal_of_isDigit,
        beq_digit, *]
  · obtain ⟨d1, rfl⟩ := List.length_eq_one_iff.1 hdlen
    simp only [List.mem_cons, List.not_mem_nil, or_false, forall_eq] at hdd
    cases layout with
    | iso | compact => exact absurd hfirst (by decide)
    | slashed | dotted =>
      simp [NumericDate.chars, NumericLayout.format, fixedShapes, Pattern.matchesPrefix,
        Pattern.matchPrefix, Pattern.times, Pattern.digit, List.replicate, isDecimal_of_isDigit,
        beq_digit, *]


/-! ## Reading a numeric date -/

namespace NumericDate

theorem toList_text (t : NumericDate) : t.text.toList = t.chars := String.toList_ofList

/-- A numeric date is read by the fixed shape of its layout. -/
theorem dateOf?_text (t : NumericDate) :
    dateOf? t.text = some <$> readWithFormat t.layout.format t.text := by
  obtain ⟨p, hp⟩ := find?_fixedShapes t
  simp only [dateOf?, toList_text, hp]

/-- A numeric date is read with its layout's format: as the moment of its digits at midnight
when its month and day fit their fields, and refused for its shape otherwise. -/
theorem readWithFormat_layout (t : NumericDate) :
    (t.FieldsFit → readWithFormat t.layout.format t.text =
      Moment.make (digitsValue t.year) (digitsValue t.month) (digitsValue t.day) 0 0 0) ∧
    (¬ t.FieldsFit → ∃ e, readWithFormat t.layout.format t.text = .error e ∧ e.blamesValue) := by
  obtain ⟨hfit, hwhole⟩ := matchPrefix_whole t
  rw [← toList_text] at hfit hwhole
  refine ⟨fun h => ?_, fun h => readWithFormat_of_not_whole fun gs hgs => h (hwhole gs hgs).1⟩
  obtain ⟨gs, hgs⟩ := hfit h
  obtain ⟨-, hy, hm, hd⟩ := hwhole gs hgs
  -- each field has at least one digit
  have hne : ∀ {ds : List Char}, 0 < ds.length → ds ≠ [] := List.ne_nil_of_length_pos
  have hday : 0 < t.day.length := by rcases t.day_digits.1 with h | h <;> omega
  rw [readWithFormat_of_whole hgs,
    groupValue_of_lookup hy (hne (by rw [t.year_digits.1]; omega)) t.year_digits.2,
    groupValue_of_lookup hm (hne (by rw [t.month_digits.1]; omega)) t.month_digits.2,
    groupValue_of_lookup hd (hne hday) t.day_digits.2]


/-- The moment a numeric date names, at midnight. -/
def moment (t : NumericDate) : Moment :=
  ⟨digitsValue t.year, digitsValue t.month, digitsValue t.day, 0, 0, 0⟩

theorem moment_toDay (t : NumericDate) : t.moment.toDay = t.date := rfl

/-- The digits of a numeric date fit machine integers: a year below 10000, a month and a day
below 100. -/
theorem moment_fitsMachineInts (t : NumericDate) : t.moment.FitsMachineInts := by
  have hy := digitsValue_lt_pow t.year_digits.2
  have hm := digitsValue_lt_pow t.month_digits.2
  have hd := digitsValue_lt_pow t.day_digits.2
  have hdlen : t.day.length ≤ 2 := by rcases t.day_digits.1 with h | h <;> omega
  rw [t.year_digits.1] at hy
  rw [t.month_digits.1] at hm
  have hd100 : 10 ^ t.day.length ≤ 10 ^ 2 := Nat.pow_le_pow_right (by omega) hdlen
  simp only [moment, Moment.FitsMachineInts, FitsMachineInt]
  omega

/-- Four digits write no year past 9999. -/
theorem year_le (t : NumericDate) : t.date.year ≤ 9999 := by
  have hy := digitsValue_lt_pow t.year_digits.2
  rw [t.year_digits.1] at hy
  simp only [date]
  omega

/-- The moment of a numeric date is valid when its day is a day of the calendar from the year 1
on: four digits never name a year past 9999. -/
theorem moment_valid_iff (t : NumericDate) :
    t.moment.Valid ↔ t.date.Valid ∧ 1 ≤ t.date.year := by
  have hy := t.year_le
  simp only [Moment.Valid, moment_toDay]
  constructor
  · rintro ⟨hvalid, hy1, -⟩
    exact ⟨hvalid, hy1⟩
  · rintro ⟨hvalid, hy1⟩
    refine ⟨hvalid, hy1, ?_, ?_, ?_, ?_⟩ <;> simp only [moment, date] at hy hy1 ⊢ <;> omega

end NumericDate

/-! ## The ISO spelling of a day -/

/-- The ASCII digit of the last decimal place of a number. -/
def digitChar (n : Nat) : Char := Char.ofNat (48 + n % 10)

/-- The last `w` decimal places of a number, with leading zeros. -/
def paddedDigits : Nat → Nat → List Char
  | 0, _ => []
  | w + 1, n => paddedDigits w (n / 10) ++ [digitChar n]

theorem ascii_digits : ∀ d : Fin 10,
    (Char.ofNat (48 + d)).toNat = 48 + d ∧ (Char.ofNat (48 + d)).isDigit = true := by
  decide

theorem digitChar_spec (n : Nat) :
    (digitChar n).toNat = 48 + n % 10 ∧ (digitChar n).isDigit = true :=
  ascii_digits ⟨n % 10, Nat.mod_lt n (by decide)⟩

@[simp] theorem length_paddedDigits (w n : Nat) : (paddedDigits w n).length = w := by
  induction w generalizing n with
  | zero => rfl
  | succ w ih => simp [paddedDigits, ih]

theorem paddedDigits_isDigit (w n : Nat) : ∀ c ∈ paddedDigits w n, c.isDigit = true := by
  induction w generalizing n with
  | zero => simp [paddedDigits]
  | succ w ih =>
    intro c hc
    rcases List.mem_append.1 hc with hc | hc
    · exact ih (n / 10) c hc
    · rw [List.mem_singleton.1 hc]
      exact (digitChar_spec n).2

theorem digitsValue_append_single (ds : List Char) (c : Char) :
    digitsValue (ds ++ [c]) = digitsValue ds * 10 + (c.toNat - 48) := by
  simp [digitsValue, List.foldl_append]

/-- Padded digits write the number modulo the power of ten of their width. -/
theorem digitsValue_paddedDigits (w n : Nat) : digitsValue (paddedDigits w n) = n % 10 ^ w := by
  induction w generalizing n with
  | zero => simp [paddedDigits, digitsValue, Nat.mod_one]
  | succ w ih =>
    -- the last digit is the remainder by ten, the others write the quotient
    rw [paddedDigits, digitsValue_append_single, ih, (digitChar_spec n).1, pow_succ',
      Nat.mod_mul]
    omega

/-- A day written `YYYY-MM-DD`, each field padded with zeros. -/
def NumericDate.ofDay (d : Day) : NumericDate :=
  ⟨.iso, paddedDigits 4 d.year.toNat, paddedDigits 2 d.month, paddedDigits 2 d.day,
    ⟨length_paddedDigits 4 _, paddedDigits_isDigit 4 _⟩,
    ⟨length_paddedDigits 2 _, paddedDigits_isDigit 2 _⟩,
    ⟨.inl (length_paddedDigits 2 _), paddedDigits_isDigit 2 _⟩⟩

/-- The `YYYY-MM-DD` spelling of a day of the years 0 to 9999 names that day. -/
theorem NumericDate.date_ofDay {d : Day} (hy0 : 0 ≤ d.year) (hy : d.year ≤ 9999)
    (hm : d.month < 100) (hd : d.day < 100) : (NumericDate.ofDay d).date = d := by
  obtain ⟨y, m, dd⟩ := d
  simp only [NumericDate.ofDay, NumericDate.date, digitsValue_paddedDigits] at hy0 hy hm hd ⊢
  congr 1 <;> omega

end Tabula.Date

namespace Tabula.Tool

open Tabula.Query Tabula.Date Tabula.Decimal

variable (kit : Toolkit)

/-! ## Converting numeric dates -/

theorem convertText_date_of_some {s : String} {m : Moment} (h : dateOf? s = .ok (some m)) :
    convertText kit .date s = .ok (.float (Binary.ofInt m.epochSeconds)) := by
  simp only [convertText, h]
  rfl

theorem convertText_date_of_error {s : String} {e : DateError} (h : dateOf? s = .error e) :
    convertText kit .date s = .error (.date e) := by
  simp only [convertText, h]
  rfl

/-- A date written with digits in one of the numeric layouts becomes the seconds from
1970-01-01 to its midnight when it names a day of the calendar from the year 1 on; any other
such text is refused for its value. -/
theorem convertText_numericDate (t : NumericDate) :
    (t.date.Valid ∧ 1 ≤ t.date.year →
      convertText kit .date t.text = .ok (.float (Binary.ofInt (86400 * t.date.number)))) ∧
    (¬ (t.date.Valid ∧ 1 ≤ t.date.year) →
      ∃ e, convertText kit .date t.text = .error (.date e) ∧ e.blamesValue) := by
  obtain ⟨hread, hrefuse⟩ := t.readWithFormat_layout
  have hmake : Moment.make (digitsValue t.year) (digitsValue t.month) (digitsValue t.day) 0 0 0 =
      Moment.make t.moment.year t.moment.month t.moment.day t.moment.hour t.moment.minute
        t.moment.second := rfl
  refine ⟨fun h => ?_, fun h => ?_⟩
  · -- a day of the calendar has a month from 1 to 12 and a day from 1 to 31
    have hfit : t.FieldsFit := by
      obtain ⟨⟨hm1, hm12, hd1, hdim⟩, -⟩ := h
      have := Day.daysInMonth_le t.date.year t.date.month
      exact ⟨hm1, hm12, hd1, by simp only [NumericDate.date] at hdim this; omega⟩
    have hok := Moment.make_eq_ok (t.moment_valid_iff.2 h)
    rw [@convertText_date_of_some kit _ t.moment (by
      rw [NumericDate.dateOf?_text, hread hfit, hmake, hok]; rfl), Moment.epochSeconds_eq,
      NumericDate.moment_toDay]
    simp [NumericDate.moment]
  · by_cases hfit : t.FieldsFit
    · obtain ⟨e, he, hblame⟩ := Moment.make_error (mt t.moment_valid_iff.1 h)
        t.moment_fitsMachineInts
      refine ⟨e, convertText_date_of_error kit ?_, hblame⟩
      rw [NumericDate.dateOf?_text, hread hfit, hmake, he]
      rfl
    · obtain ⟨e, he, hblame⟩ := hrefuse hfit
      refine ⟨e, convertText_date_of_error kit ?_, hblame⟩
      rw [NumericDate.dateOf?_text, he]
      rfl

/-- The seconds of a day of the years 1 to 9999 are held exactly by a double. -/
theorem natAbs_seconds_lt {t : Day} (h : t.Valid) (hy1 : 1 ≤ t.year) (hy : t.year ≤ 9999) :
    (86400 * t.number).natAbs < 2 ^ 53 := by
  have := Day.number_bounds h hy1 hy
  omega

/-- The `YYYY-MM-DD` spelling of a day of the calendar from the year 1 to 9999 converts to the
seconds of its midnight. -/
theorem convertText_ofDay {d : Day} (h : d.Valid) (hy1 : 1 ≤ d.year) (hy : d.year ≤ 9999) :
    convertText kit .date (NumericDate.ofDay d).text =
      .ok (.float (Binary.ofInt (86400 * d.number))) := by
  obtain ⟨hm1, hm12, hd1, hdim⟩ := h
  have hd31 := Day.daysInMonth_le d.year d.month
  have hdate := @NumericDate.date_ofDay d (by omega) hy (by omega) (by omega)
  rw [(convertText_numericDate kit _).1 (by rw [hdate]; exact ⟨⟨hm1, hm12, hd1, hdim⟩, hy1⟩),
    hdate]

/-- Dates written with digits in the numeric layouts are converted to the seconds of their
midnight from 1970-01-01 when they name a day of the calendar from the year 1 on, and refused
for their value otherwise. Two such dates, in the same layout or not, convert to equal values
exactly when they name the same day, and to values ordered as their days are. -/
theorem convertText_numericDate_spec :
    (∀ t : NumericDate,
      (t.date.Valid ∧ 1 ≤ t.date.year →
        convertText kit .date t.text = .ok (.float (Binary.ofInt (86400 * t.date.number)))) ∧
      (¬ (t.date.Valid ∧ 1 ≤ t.date.year) →
        ∃ e, convertText kit .date t.text = .error (.date e) ∧ e.blamesValue)) ∧
    ∀ t t' : NumericDate, t.date.Valid ∧ 1 ≤ t.date.year → t'.date.Valid ∧ 1 ≤ t'.date.year →
      ∃ x x', convertText kit .date t.text = .ok (.float x) ∧
        convertText kit .date t'.text = .ok (.float x') ∧
        ((x == x') = true ↔ t.date = t'.date) ∧ (x < x' ↔ t.date.Before t'.date) := by
  refine ⟨convertText_numericDate kit, fun t t' h h' => ?_⟩
  have hx := natAbs_seconds_lt h.1 h.2 t.year_le
  have hx' := natAbs_seconds_lt h'.1 h'.2 t'.year_le
  refine ⟨_, _, (convertText_numericDate kit t).1 h, (convertText_numericDate kit t').1 h', ?_,
    ?_⟩
  · rw [Binary.ofInt_beq_ofInt_iff hx hx', ← Day.number_inj h.1 h'.1]
    omega
  · rw [Binary.ofInt_lt_ofInt_iff hx hx', ← Day.number_lt_number_iff h.1 h'.1]
    omega

/-- The first day of 2001, written `2001-01-01` and `1.01.2001`, converts to one value. -/
theorem convertText_numericDate_spec_millennium :
    let t : NumericDate := ⟨.iso, ['2', '0', '0', '1'], ['0', '1'], ['0', '1'],
      by simp [Char.isDigit], by simp [Char.isDigit],
      by simp [Char.isDigit, NumericLayout.dayFirst]⟩
    let t' : NumericDate := ⟨.dotted, ['2', '0', '0', '1'], ['0', '1'], ['1'],
      by simp [Char.isDigit], by simp [Char.isDigit],
      by simp [Char.isDigit, NumericLayout.dayFirst]⟩
    ∃ x x', convertText .unavailable .date t.text = .ok (.float x) ∧
      convertText .unavailable .date t'.text = .ok (.float x') ∧
      ((x == x') = true ↔ t.date = t'.date) ∧ (x < x' ↔ t.date.Before t'.date) :=
  (convertText_numericDate_spec .unavailable).2 _ _ (by decide) (by decide)

end Tabula.Tool
