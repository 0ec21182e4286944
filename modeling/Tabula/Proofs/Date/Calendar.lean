import Mathlib
import Tabula.Date.Calendar

/-!
# The day count of the calendar

`daysFromEpoch` counts days by eras of 400 years whose years start on the first of March, so
that the leap day ends a year. This module shows that it is the day count of the proleptic
Gregorian calendar: it is `0` on 1970-01-01 and grows by one from each day to the next
(`Day.number_next`), and it orders the days of the calendar as the calendar does
(`Day.number_lt_number_iff`), so that two days have the same count only when they are the same
day (`Day.number_inj`).

The proofs split the count at the first of March of the day's year from March
(`Day.number_eq`): the days of the whole years before it (`marchStart`), which grow by 365, or
366 when the February that ends the year has a leap day (`marchStart_succ`), and the days of the
year since then (`Day.offset`), which start at `0` and stay below the length of the year
(`Day.offset_lt_yearLength`). The months from March to January are each followed by the next
month from March, which starts as many days later as the month has (`monthOffset_next`), and
February closes the year (`marchStart_eq_february`).
-/

namespace Tabula.Date

/-- The days from the first of March of the year 0 to the first of March of the year `y`. -/
def marchStart (y : Int) : Int :=
  y / 400 * 146097 + (y % 400) * 365 + (y % 400) / 4 - (y % 400) / 100

/-- The days from the first of March to the first of the month `k`, the months counted from
March (`0`) to February (`11`). -/
def monthOffset (k : Int) : Int := (153 * k + 2) / 5

@[simp] theorem isLeap_eq_true_iff (y : Int) :
    isLeap y = true ↔ (y % 4 = 0 ∧ y % 100 ≠ 0) ∨ y % 400 = 0 := by
  simp [isLeap]

/-- A year from March has 366 days when the February that ends it has a leap day. -/
theorem marchStart_succ (y : Int) :
    marchStart (y + 1) = marchStart y + if isLeap (y + 1) then 366 else 365 := by
  unfold marchStart
  split
  · rename_i hleap
    rw [isLeap_eq_true_iff] at hleap
    omega
  · rename_i hcommon
    rw [Bool.not_eq_true, ← Bool.not_eq_true, isLeap_eq_true_iff] at hcommon
    omega

/-- A later year from March starts at least a year of days later. -/
theorem marchStart_add_le {y y' : Int} (h : y < y') : marchStart y + 365 ≤ marchStart y' := by
  unfold marchStart
  omega

theorem monthOffset_le_monthOffset {k k' : Int} (h : k ≤ k') : monthOffset k ≤ monthOffset k' := by
  unfold monthOffset
  omega

/-- February, the last month from March, ends the year from March that the year `y` closes. -/
theorem marchStart_eq_february (y : Int) :
    marchStart y = marchStart (y - 1) + monthOffset 11 + daysInMonth y 2 := by
  have hyear := marchStart_succ (y - 1)
  rw [sub_add_cancel] at hyear
  have hfeb : monthOffset 11 = 337 := rfl
  rw [hyear, hfeb, daysInMonth]
  split <;> omega

/-- The months from March to January: each is followed by the next month from March, which
starts as many days later as the month has. -/
theorem monthOffset_next {m : Nat} (hm1 : 1 ≤ m) (hm12 : m ≤ 12) (hm2 : m ≠ 2) (y : Int) :
    ((m : Int) + 9) % 12 < 11 ∧
      monthOffset (((m : Int) + 9) % 12 + 1) =
        monthOffset (((m : Int) + 9) % 12) + daysInMonth y m := by
  interval_cases m <;> simp_all [monthOffset, daysInMonth]

/-- A day of the calendar: a year, a month and a day of the month. -/
structure Day where
  year : Int
  month : Nat
  day : Nat
  deriving Repr, DecidableEq

namespace Day

/-- A day that the calendar has: a month from 1 to 12, and a day from 1 to its length. -/
def Valid (t : Day) : Prop :=
  1 ≤ t.month ∧ t.month ≤ 12 ∧ 1 ≤ t.day ∧ t.day ≤ daysInMonth t.year t.month

instance (t : Day) : Decidable t.Valid := inferInstanceAs (Decidable (_ ∧ _))

/-- The order of the calendar: by year, then by month, then by day. -/
def Before (a b : Day) : Prop :=
  a.year < b.year ∨ (a.year = b.year ∧ (a.month < b.month ∨ (a.month = b.month ∧ a.day < b.day)))

/-- The day after a day. -/
def next (t : Day) : Day :=
  if t.day < daysInMonth t.year t.month then ⟨t.year, t.month, t.day + 1⟩
  else if t.month < 12 then ⟨t.year, t.month + 1, 1⟩
  else ⟨t.year + 1, 1, 1⟩

/-- The days from 1970-01-01 to the day, negative before it. -/
def number (t : Day) : Int := daysFromEpoch t.year t.month t.day

/-- The year from March that a day falls in: January and February close the year before. -/
def marchYear (t : Day) : Int := if t.month ≤ 2 then t.year - 1 else t.year

/-- The month counted from March (`0`) to February (`11`). -/
def marchMonth (t : Day) : Int := (t.month + 9) % 12

/-- The days from the first of March of the day's year from March to the day. -/
def offset (t : Day) : Int := monthOffset t.marchMonth + t.day - 1

theorem number_eq (t : Day) : t.number = marchStart t.marchYear + t.offset - 719468 := by
  unfold number daysFromEpoch marchStart offset monthOffset marchMonth marchYear
  simp only
  omega

theorem number_epoch : (⟨1970, 1, 1⟩ : Day).number = 0 := by decide

/-- Every month has between 28 and 31 days; February has 28 or 29, and 29 in a leap year. -/
theorem daysInMonth_cases (y : Int) (m : Nat) :
    (m = 2 ∧ daysInMonth y m = if isLeap y then 29 else 28) ∨
      ((m = 4 ∨ m = 6 ∨ m = 9 ∨ m = 11) ∧ daysInMonth y m = 30) ∨
      (m ≠ 2 ∧ m ≠ 4 ∧ m ≠ 6 ∧ m ≠ 9 ∧ m ≠ 11 ∧ daysInMonth y m = 31) := by
  unfold daysInMonth
  split <;> simp_all

theorem daysInMonth_le (y : Int) (m : Nat) : daysInMonth y m ≤ 31 := by
  rcases daysInMonth_cases y m with ⟨_, h⟩ | ⟨_, h⟩ | ⟨_, _, _, _, _, h⟩ <;> rw [h]
  · split <;> omega
  · omega

/-! ## The day after -/

theorem valid_next {t : Day} (h : t.Valid) : t.next.Valid := by
  obtain ⟨y, m, d⟩ := t
  obtain ⟨hm1, hm12, hd1, hdim⟩ : 1 ≤ m ∧ m ≤ 12 ∧ 1 ≤ d ∧ d ≤ daysInMonth y m := h
  dsimp only [next]
  split
  · simp only [Valid]
    omega
  · split
    · -- the first of the next month: every month has a first day
      have hfirst : 1 ≤ daysInMonth y (m + 1) := by
        rcases daysInMonth_cases y (m + 1) with ⟨_, h⟩ | ⟨_, h⟩ | ⟨_, _, _, _, _, h⟩ <;>
          rw [h] <;> (try split) <;> omega
      simp only [Valid]
      omega
    · simp [Valid, daysInMonth]

/-- The count grows by one from a day to the next. Within a month only the day changes; at the
end of a month the next month from March starts as many days later as the month has, and the
end of February closes the year from March. -/
theorem number_next {t : Day} (h : t.Valid) : t.next.number = t.number + 1 := by
  obtain ⟨y, m, d⟩ := t
  obtain ⟨hm1, hm12, hd1, hdim⟩ : 1 ≤ m ∧ m ≤ 12 ∧ 1 ≤ d ∧ d ≤ daysInMonth y m := h
  dsimp only [next]
  split
  · simp only [number_eq, offset, marchYear, marchMonth]
    omega
  · have hd : d = daysInMonth y m := by omega
    split
    · simp only [number_eq, offset, marchYear, marchMonth]
      by_cases hm2 : m = 2
      · -- the first of March: a new year from March
        subst hm2
        have hyear := marchStart_eq_february y
        have hmarch : monthOffset 0 = 0 := rfl
        norm_num [hyear, hmarch]
        omega
      · obtain ⟨hlt, hnext⟩ := monthOffset_next hm1 hm12 hm2 y
        have hk : ((m + 1 : Nat) + 9 : Int) % 12 = ((m : Int) + 9) % 12 + 1 := by omega
        rw [hk, hnext]
        split <;> split <;> omega
    · -- the first of January: the year from March goes on
      have hm : m = 12 := by omega
      subst hm
      obtain ⟨-, hnext⟩ := monthOffset_next (by norm_num) le_rfl (by norm_num) y
      simp only [number_eq, offset, marchYear, marchMonth]
      norm_num at hnext ⊢
      omega

/-! ## Order -/

/-- A day of the calendar comes after the first of March of its year from March and before
the next one. -/
theorem offset_lt_yearLength {t : Day} (h : t.Valid) :
    0 ≤ t.offset ∧ t.offset < marchStart (t.marchYear + 1) - marchStart t.marchYear := by
  obtain ⟨y, m, d⟩ := t
  obtain ⟨hm1, hm12, hd1, hdim⟩ : 1 ≤ m ∧ m ≤ 12 ∧ 1 ≤ d ∧ d ≤ daysInMonth y m := h
  have hfirst : monthOffset 0 ≤ monthOffset (((m : Int) + 9) % 12) :=
    monthOffset_le_monthOffset (by omega)
  have hmarch : monthOffset 0 = 0 := rfl
  have hfeb : monthOffset 11 = 337 := rfl
  simp only [offset, marchYear, marchMonth]
  by_cases hm2 : m = 2
  · -- February closes the year from March
    subst hm2
    have hyear := marchStart_eq_february y
    norm_num [hyear, hfeb]
    omega
  · -- any other month ends by the first of February, 337 days after the first of March
    obtain ⟨hlt, hnext⟩ := monthOffset_next hm1 hm12 hm2 y
    have hend : monthOffset (((m : Int) + 9) % 12 + 1) ≤ monthOffset 11 :=
      monthOffset_le_monthOffset (by omega)
    have hlen := marchStart_add_le (lt_add_one (if m ≤ 2 then y - 1 else y))
    omega

/-- A day comes before the first of the next month from March. -/
theorem offset_lt_monthOffset {t : Day} (h : t.Valid) (hk : t.marchMonth < 11) :
    t.offset < monthOffset (t.marchMonth + 1) := by
  obtain ⟨y, m, d⟩ := t
  obtain ⟨hm1, hm12, hd1, hdim⟩ : 1 ≤ m ∧ m ≤ 12 ∧ 1 ≤ d ∧ d ≤ daysInMonth y m := h
  simp only [offset, marchMonth] at hk ⊢
  -- February is the last month from March, so this is another month
  have hm2 : m ≠ 2 := by
    rintro rfl
    norm_num at hk
  rw [(monthOffset_next hm1 hm12 hm2 y).2]
  omega

theorem monthOffset_le_offset {t : Day} (h : t.Valid) : monthOffset t.marchMonth ≤ t.offset := by
  have := h.2.2.1
  unfold offset
  omega

/-- The calendar order, read on years and months from March. -/
theorem before_march {a b : Day} (ha : a.Valid) (hb : b.Valid) (h : a.Before b) :
    a.marchYear < b.marchYear ∨ (a.marchYear = b.marchYear ∧
      (a.marchMonth < b.marchMonth ∨ (a.marchMonth = b.marchMonth ∧ a.day < b.day))) := by
  obtain ⟨hm1, hm12, -, -⟩ := ha
  obtain ⟨hm1', hm12', -, -⟩ := hb
  unfold Before at h
  unfold marchYear marchMonth
  split <;> split <;> omega

theorem number_lt_number_of_before {a b : Day} (ha : a.Valid) (hb : b.Valid) (h : a.Before b) :
    a.number < b.number := by
  have hoa := offset_lt_yearLength ha
  have hob := offset_lt_yearLength hb
  rw [number_eq, number_eq]
  rcases before_march ha hb h with hyear | ⟨hyear, hmonth | ⟨hmonth, hday⟩⟩
  · -- `a` ends before the next year from March starts, and `b` starts no earlier
    have hnext : marchStart (a.marchYear + 1) ≤ marchStart b.marchYear := by
      rcases (show a.marchYear + 1 = b.marchYear ∨ a.marchYear + 1 < b.marchYear by omega)
        with heq | hlt
      · rw [heq]
      · have := marchStart_add_le hlt
        omega
    omega
  · -- within one year from March, `a` ends before the month after its own starts
    have hka : a.marchMonth < 11 := by
      have : b.marchMonth < 12 := by unfold marchMonth; omega
      omega
    have h1 := offset_lt_monthOffset ha hka
    have h2 := monthOffset_le_monthOffset (show a.marchMonth + 1 ≤ b.marchMonth by omega)
    have h3 := monthOffset_le_offset hb
    rw [hyear]
    omega
  · rw [hyear]
    unfold offset
    rw [hmonth]
    omega

/-- Of two days, one comes first, or they are the same. -/
theorem before_trichotomy (a b : Day) : a.Before b ∨ a = b ∨ b.Before a := by
  obtain ⟨y, m, d⟩ := a
  obtain ⟨y', m', d'⟩ := b
  unfold Before
  simp only [Day.mk.injEq]
  omega

/-- The count orders the days of the calendar as the calendar does. -/
theorem number_lt_number_iff {a b : Day} (ha : a.Valid) (hb : b.Valid) :
    a.number < b.number ↔ a.Before b := by
  refine ⟨fun hlt => ?_, number_lt_number_of_before ha hb⟩
  rcases before_trichotomy a b with hab | rfl | hba
  · exact hab
  · exact absurd hlt (lt_irrefl _)
  · exact absurd (number_lt_number_of_before hb ha hba) (not_lt.2 hlt.le)

/-- Two days of the calendar have the same count only when they are the same day. -/
theorem number_inj {a b : Day} (ha : a.Valid) (hb : b.Valid) : a.number = b.number ↔ a = b := by
  refine ⟨fun heq => ?_, fun h => h ▸ rfl⟩
  rcases before_trichotomy a b with hab | hab | hba
  · exact absurd heq (number_lt_number_of_before ha hb hab).ne
  · exact hab
  · exact absurd heq.symm (number_lt_number_of_before hb ha hba).ne

/-- The days of the years 1 to 9999 are counted within a few million days of 1970-01-01. -/
theorem number_bounds {t : Day} (h : t.Valid) (hy1 : 1 ≤ t.year) (hy : t.year ≤ 9999) :
    -719468 ≤ t.number ∧ t.number ≤ 3660000 := by
  have hmy : 0 ≤ t.marchYear ∧ t.marchYear ≤ 9999 := by
    unfold marchYear
    split <;> omega
  have hstart : 0 ≤ marchStart t.marchYear ∧ marchStart t.marchYear ≤ 3659634 := by
    unfold marchStart
    omega
  have hsucc := marchStart_succ t.marchYear
  have hoff := offset_lt_yearLength h
  rw [number_eq]
  split at hsucc <;> omega

end Day

end Tabula.Date
