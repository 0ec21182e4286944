import Mathlib
import Tabula.Date.Moment
import Tabula.Proofs.Date.Calendar

/-!
# Making moments

`Moment.make` checks the parts of a moment in two rounds: each part must fit a machine integer,
then each must lie in its range, the day within the length of its month. A moment between the
years 1 and 9999 whose day is a day of the calendar and whose time is a time of day is made as
it is (`Moment.make_eq_ok`). Any other moment whose parts fit machine integers is refused with
an error about the value (`Moment.make_error`), never with an overflow. A moment counts its
seconds from its day's count (`Moment.epochSeconds_eq`).
-/

namespace Tabula.Date

/-- The errors that reject the value itself: a text that does not have the shape of its format,
or that names no moment of the calendar. The others say that a part overflows a machine
integer, or that the value is no text. -/
def DateError.blamesValue : DateError → Bool
  | .mismatch .. | .unconverted _ | .yearOutOfRange _ | .monthOutOfRange | .dayOutOfRange
  | .hourOutOfRange | .minuteOutOfRange | .secondOutOfRange => true
  | .aboveIntRange | .belowIntRange | .beyondLongRange | .unreadable | .notText _ => false

/-- A value that fits a machine integer of 32 bits. -/
def FitsMachineInt (v : Int) : Prop := -2147483648 ≤ v ∧ v < 2147483648

theorem checkMachineInt_of_fits {v : Int} (h : FitsMachineInt v) : checkMachineInt v = pure () := by
  obtain ⟨hlo, hhi⟩ := h
  have h31 : Int.pow 2 31 = 2147483648 := rfl
  have h63 : Int.pow 2 63 = 9223372036854775808 := rfl
  unfold checkMachineInt
  rw [h31, h63, if_neg (by simp; omega), if_neg (by simp; omega), if_neg (by simp; omega)]
  rfl

theorem checkRange_of_mem {v lo hi : Int} {e : DateError} (h : lo ≤ v ∧ v ≤ hi) :
    checkRange v lo hi e = pure v.toNat :=
  if_pos h

theorem checkRange_of_not_mem {v lo hi : Int} {e : DateError} (h : ¬ (lo ≤ v ∧ v ≤ hi)) :
    checkRange v lo hi e = .error e :=
  if_neg h

/-- The first round of `Moment.make` passes when every part fits a machine integer. -/
theorem forIn_checkMachineInt : ∀ {vs : List Int}, (∀ v ∈ vs, FitsMachineInt v) →
    (forIn vs PUnit.unit fun v _ => do
      checkMachineInt v
      pure (ForInStep.yield PUnit.unit) : Except DateError PUnit) = pure PUnit.unit
  | [], _ => rfl
  | v :: vs, h => by
    simp only [List.forIn_cons, checkMachineInt_of_fits (h v List.mem_cons_self), pure_bind]
    exact forIn_checkMachineInt fun w hw => h w (List.mem_cons_of_mem v hw)

namespace Moment

/-- The day of a moment. -/
def toDay (t : Moment) : Day := ⟨t.year, t.month, t.day⟩

/-- A moment that can be made: a day of the calendar between the years 1 and 9999, and a time of
day. -/
def Valid (t : Moment) : Prop :=
  t.toDay.Valid ∧ 1 ≤ t.year ∧ t.year ≤ 9999 ∧ t.hour ≤ 23 ∧ t.minute ≤ 59 ∧ t.second ≤ 59

instance (t : Moment) : Decidable t.Valid := inferInstanceAs (Decidable (_ ∧ _))

/-- A moment's seconds: its day's count of days, then the time of day. -/
theorem epochSeconds_eq (t : Moment) :
    t.epochSeconds = 86400 * t.toDay.number + 3600 * t.hour + 60 * t.minute + t.second := by
  simp only [epochSeconds, toDay, Day.number]
  ring

/-- The parts of a moment fit machine integers. -/
def FitsMachineInts (t : Moment) : Prop :=
  FitsMachineInt t.year ∧ t.month < 2147483648 ∧ t.day < 2147483648 ∧ t.hour < 2147483648 ∧
    t.minute < 2147483648 ∧ t.second < 2147483648

theorem FitsMachineInts.forall {t : Moment} (h : t.FitsMachineInts) :
    ∀ v ∈ [t.year, (t.month : Int), t.day, t.hour, t.minute, t.second], FitsMachineInt v := by
  obtain ⟨⟨hlo, hhi⟩, hmo, hd, hh, hmi, hs⟩ := h
  simp only [List.mem_cons, List.not_mem_nil, or_false, forall_eq_or_imp, forall_eq,
    FitsMachineInt]
  omega

theorem Valid.fitsMachineInts {t : Moment} (h : t.Valid) : t.FitsMachineInts := by
  obtain ⟨⟨_, hmo12, _, hdim⟩, hy1, hy9999, hh23, hmi59, hs59⟩ := h
  have hd31 := Day.daysInMonth_le t.year t.month
  simp only [toDay] at hmo12 hdim
  refine ⟨⟨?_, ?_⟩, ?_, ?_, ?_, ?_, ?_⟩ <;> omega

/-- A valid moment is made from its parts. -/
theorem make_eq_ok {t : Moment} (h : t.Valid) :
    Moment.make t.year t.month t.day t.hour t.minute t.second = .ok t := by
  have hloop := forIn_checkMachineInt (h.fitsMachineInts.forall)
  obtain ⟨y, mo, d, hh, mi, s⟩ := t
  obtain ⟨⟨hmo1, hmo12, hd1, hdim⟩, hy1, hy9999, hh23, hmi59, hs59⟩ := h
  simp only [toDay] at hmo1 hmo12 hd1 hdim hy1 hy9999 hh23 hmi59 hs59 ⊢
  simp only [Moment.make, hloop, pure_bind]
  rw [if_neg (by omega)]
  simp only [checkRange_of_mem (show (1 : Int) ≤ mo ∧ (mo : Int) ≤ 12 by omega), pure_bind,
    Int.toNat_natCast,
    checkRange_of_mem (show (1 : Int) ≤ d ∧ (d : Int) ≤ daysInMonth y mo by omega),
    checkRange_of_mem (show (0 : Int) ≤ hh ∧ (hh : Int) ≤ 23 by omega),
    checkRange_of_mem (show (0 : Int) ≤ mi ∧ (mi : Int) ≤ 59 by omega),
    checkRange_of_mem (show (0 : Int) ≤ s ∧ (s : Int) ≤ 59 by omega)]
  rfl

/-- A moment that is not valid, but whose parts fit machine integers, is refused for its value:
the first part out of its range is named. -/
theorem make_error {t : Moment} (h : ¬ t.Valid) (hfit : t.FitsMachineInts) :
    ∃ e, Moment.make t.year t.month t.day t.hour t.minute t.second = .error e ∧
      e.blamesValue := by
  have hloop := forIn_checkMachineInt hfit.forall
  obtain ⟨y, mo, d, hh, mi, s⟩ := t
  simp only [Valid, toDay, Day.Valid] at h
  simp only [Moment.make, hloop, pure_bind]
  -- the checks in their order: the year, then month, day, hour, minute and second
  by_cases hyear : y < 1 ∨ y > 9999
  · exact ⟨_, by rw [if_pos hyear]; rfl, rfl⟩
  rw [if_neg hyear]
  by_cases hmonth : (1 : Int) ≤ mo ∧ (mo : Int) ≤ 12
  swap
  · exact ⟨_, by rw [checkRange_of_not_mem hmonth]; rfl, rfl⟩
  rw [checkRange_of_mem hmonth, pure_bind, Int.toNat_natCast]
  by_cases hday : (1 : Int) ≤ d ∧ (d : Int) ≤ daysInMonth y mo
  swap
  · exact ⟨_, by rw [checkRange_of_not_mem hday]; rfl, rfl⟩
  rw [checkRange_of_mem hday, pure_bind, Int.toNat_natCast]
  by_cases hhour : (0 : Int) ≤ hh ∧ (hh : Int) ≤ 23
  swap
  · exact ⟨_, by rw [checkRange_of_not_mem hhour]; rfl, rfl⟩
  rw [checkRange_of_mem hhour, pure_bind, Int.toNat_natCast]
  by_cases hminute : (0 : Int) ≤ mi ∧ (mi : Int) ≤ 59
  swap
  · exact ⟨_, by rw [checkRange_of_not_mem hminute]; rfl, rfl⟩
  rw [checkRange_of_mem hminute, pure_bind, Int.toNat_natCast]
  by_cases hsecond : (0 : Int) ≤ s ∧ (s : Int) ≤ 59
  swap
  · exact ⟨_, by rw [checkRange_of_not_mem hsecond]; rfl, rfl⟩
  -- every check passed, so the moment was valid after all
  exact absurd (by omega) h

end Moment

end Tabula.Date
