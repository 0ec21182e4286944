import Mathlib
import Tabula.Decimal.Read
import Tabula.Proofs.Csv.RoundTrip

/-!
# Reading plain numbers

A number written in ASCII without blanks or underscores is read from its own characters:
reading keeps ASCII as it is (`normalizeDigits_eq_self`), so the body of such a text is
the text itself (`numberBody_of_plain`), and a run of ASCII digits reads as the whole number it
writes (`readWhole?_digits`).

The facts about single ASCII characters (their digit values, that digits are no blanks) are
checked once over the 128 ASCII code points.
-/

namespace Tabula.Decimal

open Tabula.Text

/-! ## ASCII characters -/

theorem digitValue?_ascii :
    ∀ n : Fin 128, digitValue? (Char.ofNat n) =
      if (Char.ofNat n).isDigit then some ((Char.ofNat n).toNat - 48) else none := by
  decide

/-- An ASCII character has a digit value exactly when it is a digit, and the value is its
distance from `0`. -/
theorem digitValue?_of_ascii {c : Char} (h : c.toNat < 128) :
    digitValue? c = if c.isDigit then some (c.toNat - 48) else none := by
  simpa [Char.ofNat_toNat] using digitValue?_ascii ⟨c.toNat, h⟩

theorem isDigit_toNat_le {c : Char} (h : c.isDigit = true) : c.toNat ≤ 57 := by
  simp only [Char.isDigit, Bool.and_eq_true, decide_eq_true_eq,
    UInt32.le_iff_toNat_le] at h
  exact h.2

theorem isDigit_toNat_lt {c : Char} (h : c.isDigit = true) : c.toNat < 128 :=
  Nat.lt_of_le_of_lt (isDigit_toNat_le h) (by decide)

theorem isBlank_ascii_digit : ∀ n : Fin 128, (Char.ofNat n).isDigit = true →
    isBlank (Char.ofNat n) = false := by
  decide

theorem isBlank_of_isDigit {c : Char} (h : c.isDigit = true) : isBlank c = false := by
  simpa [Char.ofNat_toNat] using isBlank_ascii_digit ⟨c.toNat, isDigit_toNat_lt h⟩
    (by simpa [Char.ofNat_toNat] using h)

/-- On ASCII, the decimal digits of every script are the digits `0` to `9`. -/
theorem isDecimal_of_ascii {c : Char} (h : c.toNat < 128) : isDecimal c = c.isDigit := by
  rw [isDecimal, digitValue?_of_ascii h]
  cases c.isDigit <;> rfl

theorem isDecimal_of_isDigit {c : Char} (h : c.isDigit = true) : isDecimal c = true := by
  rw [isDecimal_of_ascii (isDigit_toNat_lt h), h]

/-! ## The body of a plain number -/

/-- Reading keeps the characters of ASCII text below DEL. -/
theorem normalizeDigits_eq_self {cs : List Char} (h : ∀ c ∈ cs, c.toNat < 127) :
    normalizeDigits cs = cs := by
  unfold normalizeDigits
  conv_rhs => rw [← List.map_id cs]
  exact List.map_congr_left fun c hc => if_pos (h c hc)

theorem underscoresBetweenDigits_go {prev : Char} (hprev : prev ≠ '_') :
    ∀ {cs : List Char}, '_' ∉ cs → underscoresBetweenDigits.go prev cs = true
  | [], _ => by simp [underscoresBetweenDigits.go, hprev]
  | c :: rest, hc => by
    have hc' : c ≠ '_' := fun h => hc (h ▸ List.mem_cons_self)
    have hrest : '_' ∉ rest := fun h => hc (List.mem_cons_of_mem c h)
    simp [underscoresBetweenDigits.go, hc', hprev, underscoresBetweenDigits_go hc' hrest]

/-- The body of ASCII text without blanks or underscores is the text. -/
theorem numberBody_of_plain {cs : List Char} (h : ∀ c ∈ cs, c.toNat < 127 ∧ isBlank c = false)
    (hu : '_' ∉ cs) : numberBody (String.ofList cs) = some cs := by
  have hfilter : cs.filter (· != '_') = cs :=
    List.filter_eq_self.2 fun c hc => by
      simpa using fun heq : c = '_' => hu (heq ▸ hc)
  have htrim : trimAsciiBlank cs = cs :=
    Csv.trimBy_eq_self (fun c hc => Csv.isAsciiBlank_eq_false (h c (List.mem_of_mem_head? hc)).2)
      (fun c hc => Csv.isAsciiBlank_eq_false (h c (List.mem_of_mem_getLast? hc)).2)
  simp only [numberBody, String.toList_ofList, normalizeDigits_eq_self fun c hc => (h c hc).1,
    underscoresBetweenDigits, @underscoresBetweenDigits_go '\x00' (by decide) cs hu, hfilter,
    htrim, if_true]

/-! ## Whole numbers -/

/-- A run of ASCII digits reads as the whole number it writes. -/
theorem readWhole?_digits {ds : List Char} (hne : ds ≠ []) (hds : ∀ c ∈ ds, c.isDigit = true) :
    readWhole? (String.ofList ds) = some (digitsValue ds : Int) := by
  have hplain : ∀ c ∈ ds, c.toNat < 127 ∧ isBlank c = false :=
    fun c hc => ⟨Nat.lt_of_le_of_lt (isDigit_toNat_le (hds c hc)) (by decide),
      isBlank_of_isDigit (hds c hc)⟩
  have hu : '_' ∉ ds := fun h => absurd (hds '_' h) (by decide)
  -- the first digit is no sign
  have hsign : splitSign ds = (false, ds) := by
    obtain ⟨c, rest, rfl⟩ := List.exists_cons_of_ne_nil hne
    have hc := hds c List.mem_cons_self
    have hminus : c ≠ '-' := fun h => absurd (h ▸ hc) (by decide)
    have hplus : c ≠ '+' := fun h => absurd (h ▸ hc) (by decide)
    unfold splitSign
    split <;> simp_all
  simp only [readWhole?, numberBody_of_plain hplain hu, hsign, Option.bind_eq_bind,
    Option.bind_some, List.isEmpty_eq_false_iff.2 hne, List.all_eq_true.2 hds, Bool.not_true,
    Bool.or_self, Bool.false_eq_true, if_false]

end Tabula.Decimal
