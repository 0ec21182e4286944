import Mathlib
import Tabula.Date.Format
import Tabula.Proofs.Text.Pattern
import Tabula.Proofs.Decimal.Read
import Tabula.Proofs.Date.Moment

/-!
# The fields of a date format

A format reads a month as the first of `10`–`12`, `01`–`09` and `1`–`9` that lets the rest of
the format match, and a day in the same way from `30`–`31` down to a single digit. On two ASCII
digits these alternatives come down to two: the two digits when their number is in the field's
range, and otherwise the first digit alone when it is not `0` (`run_month_field`,
`run_day_field`). A year takes four digits (`run_year_field`).

Reading with a format then has two outcomes (`readWithFormat_of_whole`,
`readWithFormat_of_not_whole`): a match of the whole text gives the moment of the numbers in its
groups, and a text with no such match is refused for its shape.
-/

namespace Tabula.Date

open Tabula.Text Tabula.Decimal

/-! ## Characters and digits -/

theorem char_le_iff_toNat (c d : Char) : c ≤ d ↔ c.toNat ≤ d.toNat := by
  rw [Char.le_def, UInt32.le_iff_toNat_le]
  rfl

theorem isDigit_iff_toNat (c : Char) : c.isDigit = true ↔ 48 ≤ c.toNat ∧ c.toNat ≤ 57 := by
  simp only [Char.isDigit, Bool.and_eq_true, decide_eq_true_eq, UInt32.le_iff_toNat_le]
  rfl

theorem digitsValue_pair (a b : Char) :
    digitsValue [a, b] = (a.toNat - 48) * 10 + (b.toNat - 48) := by
  simp [digitsValue]

theorem digitsValue_single (a : Char) : digitsValue [a] = a.toNat - 48 := by
  simp [digitsValue]

/-- A run of `n` digits writes a number below `10 ^ n`. -/
theorem digitsValue_lt_pow {ds : List Char} (hds : ∀ c ∈ ds, c.isDigit = true) :
    digitsValue ds < 10 ^ ds.length := by
  -- the fold, from any start: the start is shifted left by the digits read
  have hfold : ∀ (ds : List Char) (acc : Nat), (∀ c ∈ ds, c.isDigit = true) →
      ds.foldl (fun acc d => acc * 10 + (d.toNat - 48)) acc < (acc + 1) * 10 ^ ds.length := by
    intro ds
    induction ds with
    | nil => intro acc _; simp
    | cons d rest ih =>
      intro acc hds
      have hd := (isDigit_iff_toNat d).1 (hds d List.mem_cons_self)
      have hrest := ih (acc * 10 + (d.toNat - 48)) fun c hc => hds c (List.mem_cons_of_mem d hc)
      have hle : (acc * 10 + (d.toNat - 48) + 1) * 10 ^ rest.length ≤
          (acc + 1) * 10 * 10 ^ rest.length := Nat.mul_le_mul_right _ (by omega)
      rw [List.foldl_cons, List.length_cons, pow_succ]
      calc _ < (acc * 10 + (d.toNat - 48) + 1) * 10 ^ rest.length := hrest
        _ ≤ (acc + 1) * 10 * 10 ^ rest.length := hle
        _ = (acc + 1) * (10 ^ rest.length * 10) := by ring
  simpa [digitsValue] using hfold ds 0 hds

/-- A separator is no digit. -/
theorem beq_digit {sep c : Char} (hsep : sep.isDigit = false) (hc : c.isDigit = true) :
    (sep == c) = false := by
  rw [beq_eq_false_iff_ne]
  rintro rfl
  rw [hsep] at hc
  exact Bool.false_ne_true hc

/-! ## One field at a time -/

/-- Two alternatives that give the same result under different conditions are one. -/
theorem orElse_ite_none {α : Type} (p q : Prop) [Decidable p] [Decidable q] (x : Option α)
    (f : Unit → Option α) :
    ((if p then x else none).orElse fun _ => (if q then x else none).orElse f) =
      (if p ∨ q then x else none).orElse f := by
  by_cases hp : p <;> by_cases hq : q <;> cases x <;> simp [hp, hq]

theorem orElse_none_right {α : Type} (x : Option α) : (x.orElse fun _ => none) = x := by
  cases x <;> rfl

variable {α : Type} {fuel : Nat} {gs : Groups} {k : List Char → Groups → Option α}

theorem take_pair (a b : Char) (rest : List Char) :
    (a :: b :: rest).take ((a :: b :: rest).length - rest.length) = [a, b] := by
  simp [show rest.length + 1 + 1 - rest.length = 2 by omega]

theorem take_single (a : Char) (rest : List Char) :
    (a :: rest).take ((a :: rest).length - rest.length) = [a] := by
  simp

/-- The month field: two digits from `01` to `12`, or else one digit from `1` to `9`. -/
theorem run_month_field {a b : Char} (ha : a.isDigit = true) (hb : b.isDigit = true)
    (rest : List Char) :
    (Field.pattern .month).run fuel (a :: b :: rest) gs k =
      (if 1 ≤ digitsValue [a, b] ∧ digitsValue [a, b] ≤ 12 then
        k rest (("m", [a, b]) :: gs) else none).orElse fun _ =>
      if 1 ≤ digitsValue [a] then k (b :: rest) (("m", [a]) :: gs) else none := by
  rw [isDigit_iff_toNat] at ha hb
  simp only [Field.pattern, Pattern.altAll, Pattern.range, run_group, run_alt, run_seqAll_cons,
    run_seqAll_nil, run_lit_cons, run_cls_cons, beq_iff_eq, Bool.and_eq_true, decide_eq_true_eq,
    ← Char.toNat_inj, char_le_iff_toNat, Char.reduceToNat, take_pair, take_single]
  rw [← ite_and, ← ite_and, orElse_ite_none]
  have hpair : (49 = a.toNat ∧ 48 ≤ b.toNat ∧ b.toNat ≤ 50 ∨
      48 = a.toNat ∧ 49 ≤ b.toNat ∧ b.toNat ≤ 57) ↔
      1 ≤ digitsValue [a, b] ∧ digitsValue [a, b] ≤ 12 := by
    rw [digitsValue_pair]
    omega
  have hsingle : (49 ≤ a.toNat ∧ a.toNat ≤ 57) ↔ 1 ≤ digitsValue [a] := by
    rw [digitsValue_single]
    omega
  simp only [hpair, hsingle]

/-- The day field: two digits from `01` to `31`, or else one digit from `1` to `9`. -/
theorem run_day_field {a b : Char} (ha : a.isDigit = true) (hb : b.toNat < 128)
    (rest : List Char) :
    (Field.pattern .day).run fuel (a :: b :: rest) gs k =
      (if b.isDigit = true ∧ 1 ≤ digitsValue [a, b] ∧ digitsValue [a, b] ≤ 31 then
        k rest (("d", [a, b]) :: gs) else none).orElse fun _ =>
      if 1 ≤ digitsValue [a] then k (b :: rest) (("d", [a]) :: gs) else none := by
  rw [isDigit_iff_toNat] at ha
  simp only [Field.pattern, Pattern.altAll, Pattern.range, Pattern.digit, run_group, run_alt,
    run_seqAll_cons, run_seqAll_nil, run_lit_cons, run_cls_cons, beq_iff_eq,
    isDecimal_of_ascii hb, isDigit_iff_toNat, Bool.and_eq_true, decide_eq_true_eq,
    ← Char.toNat_inj, char_le_iff_toNat, Char.reduceToNat, take_pair, take_single]
  -- no day starts with a blank here
  rw [if_neg (show ¬ 32 = a.toNat by omega), orElse_none_right]
  rw [← ite_and, ← ite_and, ← ite_and, orElse_ite_none, orElse_ite_none]
  have hpair : ((51 = a.toNat ∧ 48 ≤ b.toNat ∧ b.toNat ≤ 49 ∨
      (49 ≤ a.toNat ∧ a.toNat ≤ 50) ∧ 48 ≤ b.toNat ∧ b.toNat ≤ 57) ∨
      48 = a.toNat ∧ 49 ≤ b.toNat ∧ b.toNat ≤ 57) ↔
      (48 ≤ b.toNat ∧ b.toNat ≤ 57) ∧ 1 ≤ digitsValue [a, b] ∧ digitsValue [a, b] ≤ 31 := by
    rw [digitsValue_pair]
    omega
  have hsingle : (49 ≤ a.toNat ∧ a.toNat ≤ 57) ↔ 1 ≤ digitsValue [a] := by
    rw [digitsValue_single]
    omega
  simp only [hpair, hsingle]

theorem run_year_field {ys : List Char} (hlen : ys.length = 4) (hys : ∀ c ∈ ys, c.isDigit = true)
    (rest : List Char) :
    (Field.pattern .year).run fuel (ys ++ rest) gs k = k rest (("Y", ys) :: gs) := by
  have hdec : ∀ c ∈ ys, isDecimal c = true := fun c hc => isDecimal_of_isDigit (hys c hc)
  rw [Field.pattern, run_group, Pattern.times, ← hlen, ← Pattern.times, Pattern.digit,
    run_times_cls ys hdec rest]
  simp

theorem run_year_field_end {ys : List Char} (hlen : ys.length = 4)
    (hys : ∀ c ∈ ys, c.isDigit = true) :
    (Field.pattern .year).run fuel ys gs k = k [] (("Y", ys) :: gs) := by
  simpa using @run_year_field α fuel gs k ys hlen hys []

/-! ## Reading with a format -/

/-- A group of digits is read as the number they write. -/
theorem groupValue_of_lookup {gs : Groups} {x : Field} {ds : List Char}
    (h : gs.lookup x.key = some ds) (hne : ds ≠ []) (hds : ∀ c ∈ ds, c.isDigit = true) :
    groupValue gs x = digitsValue ds := by
  rw [groupValue, h, Option.bind_some, readWhole?_digits hne hds, Option.getD_some]

/-- A match of the whole text is read as the moment of its groups, at midnight. -/
theorem readWithFormat_of_whole {f : DateFormat} {s : String} {gs : Groups}
    (h : (formatPattern f).matchPrefix s.toList = some ([], gs)) :
    readWithFormat f s =
      Moment.make (groupValue gs .year) (groupValue gs .month) (groupValue gs .day) 0 0 0 := by
  simp only [readWithFormat, h, List.isEmpty_nil]
  rfl

/-- A text that the format does not match whole is refused for its shape: it does not match,
or characters are left after the match. -/
theorem readWithFormat_of_not_whole {f : DateFormat} {s : String}
    (h : ∀ gs, (formatPattern f).matchPrefix s.toList ≠ some ([], gs)) :
    ∃ e, readWithFormat f s = .error e ∧ e.blamesValue := by
  cases hm : (formatPattern f).matchPrefix s.toList with
  | none => exact ⟨_, by simp only [readWithFormat, hm]; rfl, rfl⟩
  | some r =>
    obtain ⟨rest, gs⟩ := r
    have hrest : rest.isEmpty = false := by
      cases rest with
      | nil => exact absurd hm (h gs)
      | cons c cs => rfl
    exact ⟨_, by simp only [readWithFormat, hm, hrest]; rfl, rfl⟩


end Tabula.Date
