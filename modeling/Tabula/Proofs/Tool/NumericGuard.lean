import Tabula.Tool.Query
import Tabula.Proofs.Decimal.Read

/-!
# Cells the numeric guard admits

A numeric conversion reads a cell as a number only when the cell is not empty and each of its
characters is a blank, a decimal digit of some script or a point (`looksNumeric`). The guard
admits more than numerals: a lone point, several points, blanks between digits. This module
finds what the reading does on everything the guard admits.

Reading first normalizes the cell, character by character (`normalizeChar`): ASCII is kept,
blanks beyond it become spaces and digits beyond it ASCII digits. It then strips ASCII blanks,
and so the blanks of the cell other than the separators U+001C to U+001F, which the guard
admits as blanks (`isStrippedBlank`, `isAsciiBlank_normalizeChar`). For a guarded cell this
leaves no underscore to check and no sign, so the number read is the unsigned reading of the
cell trimmed of those blanks (`readReal?_guard`). Such a body is read exactly when it is a
numeral, `PointNumeral`: digits, then possibly a point and more digits, with a digit at least
(`readUnsignedReal_numeral`, `pointNumeral_of_readUnsignedReal`). Normalizing keeps what each
guarded character is (`normalizeChar_guard`), so the trimmed cell is a numeral over the digits
of every script exactly when its body is one over ASCII digits (`pointNumeral_map_normalize`).

`convertText_guarded` puts this together: a guarded numeral converts to the double nearest to
its value, and every other guarded cell fails both numeric conversions with the fault that
names it. A lone point is such a cell (`loadRows_point_cell`), and so is a digit after a
separator.
-/

namespace Tabula.Text

/-! ## Digits and blanks -/

/-- A code point in a table lies in one of its ranges. -/
theorem RangeTable.mem_of_contains : ∀ {t : RangeTable} {n : Nat}, t.contains n = true →
    ∃ r ∈ t, r.1 ≤ n ∧ n ≤ r.2
  | [], _, h => by simp at h
  | (lo, hi) :: rest, n, h => by
    unfold RangeTable.contains at h
    split at h
    · exact absurd h Bool.false_ne_true
    · split at h
      · exact ⟨(lo, hi), List.mem_cons_self, by omega, by omega⟩
      · obtain ⟨r, hr, hlo, hhi⟩ := RangeTable.mem_of_contains h
        exact ⟨r, List.mem_cons_of_mem _ hr, hlo, hhi⟩

/-- A digit value is the distance from the zero of a run of ten digits. -/
theorem digitValue?_eq_some {c : Char} {d : Nat} (h : digitValue? c = some d) :
    ∃ z ∈ digitZeros, z ≤ c.toNat ∧ c.toNat < z + 10 ∧ d = c.toNat - z := by
  unfold digitValue? at h
  dsimp only at h
  split at h
  · rename_i z hz
    have hmem := List.mem_of_find?_eq_some hz
    have hp := List.find?_some hz
    simp only [Bool.and_eq_true, decide_eq_true_eq] at hp
    exact ⟨z, hmem, hp.1, hp.2, (Option.some.inj h).symm⟩
  · exact absurd h (by simp)

theorem blanks_not_digits :
    blankTable.all (fun r => digitZeros.all fun z => r.2 < z || z + 10 ≤ r.1) = true := by
  decide

theorem digitValue?_lt_ten {c : Char} {d : Nat} (h : digitValue? c = some d) : d < 10 := by
  obtain ⟨z, -, hz, hlt, rfl⟩ := digitValue?_eq_some h
  omega

/-- No blank is a digit of any script. -/
theorem isDecimal_of_isBlank {c : Char} (h : isBlank c = true) : isDecimal c = false := by
  obtain ⟨r, hr, hlo, hhi⟩ := RangeTable.mem_of_contains h
  cases hd : digitValue? c with
  | none => simp [isDecimal, hd]
  | some d =>
    obtain ⟨z, hz, hzlo, hzhi, -⟩ := digitValue?_eq_some hd
    have hsep := List.all_eq_true.1 (List.all_eq_true.1 blanks_not_digits r hr) z hz
    simp only [Bool.or_eq_true, decide_eq_true_eq] at hsep
    omega

end Tabula.Text

namespace Tabula.Decimal

open Tabula.Text

/-! ## Normalized characters -/

/-- The blanks that reading strips around a number: every blank but the separators U+001C to
U+001F. -/
def isStrippedBlank (c : Char) : Bool :=
  isBlank c && !(0x1c ≤ c.toNat && c.toNat ≤ 0x1f)

/-- The ASCII digits are no blanks and no underscores. -/
theorem ascii_digit_of_lt : ∀ d : Fin 10, isAsciiBlank (Char.ofNat (48 + d)) = false ∧
    (Char.ofNat (48 + d)).isDigit = true ∧ Char.ofNat (48 + d) ≠ '_' := by
  decide

theorem isAsciiBlank_ascii :
    ∀ n : Fin 127, isAsciiBlank (Char.ofNat n) = isStrippedBlank (Char.ofNat n) := by
  decide

theorem isBlank_ascii_le : ∀ n : Fin 127, isBlank (Char.ofNat n) = true → n.val ≤ 32 := by
  decide

/-- An ASCII blank lies at or below the space. -/
theorem toNat_le_of_isBlank {c : Char} (hb : isBlank c = true) (hascii : c.toNat < 127) :
    c.toNat ≤ 32 := by
  simpa [Char.ofNat_toNat] using
    isBlank_ascii_le ⟨c.toNat, hascii⟩ (by simpa [Char.ofNat_toNat] using hb)

/-- Reading turns exactly the blanks it strips into ASCII blanks. -/
theorem isAsciiBlank_normalizeChar (c : Char) :
    isAsciiBlank (normalizeChar c) = isStrippedBlank c := by
  unfold normalizeChar
  split
  · rename_i hascii
    simpa [Char.ofNat_toNat] using isAsciiBlank_ascii ⟨c.toNat, hascii⟩
  · -- beyond ASCII there is no separator, and a blank becomes a space
    rename_i hascii
    have hsep : isStrippedBlank c = isBlank c := by
      have hhigh : ¬ c.toNat ≤ 0x1f := by omega
      simp [isStrippedBlank, hhigh]
    rw [hsep]
    split
    · rename_i hb
      rw [hb]
      rfl
    · rename_i hb
      rw [Bool.not_eq_true] at hb
      rw [hb]
      split
      · rename_i d hd
        exact (ascii_digit_of_lt ⟨d, digitValue?_lt_ten hd⟩).1
      · rfl

/-! ## Reading a normalized body -/

/-- Digits with at most one point among them and at least one digit: a decimal numeral without
sign or exponent, over the digits of a class. -/
def PointNumeral (digit : Char → Bool) (cs : List Char) : Prop :=
  ∃ w f : List Char, (∀ c ∈ w ++ f, digit c = true) ∧ w ++ f ≠ [] ∧
    (cs = w ∧ f = [] ∨ cs = w ++ '.' :: f)

/-- The characters of a normalized body: ASCII digits, points and ASCII blanks, the separators
U+001C to U+001F among them. -/
def BodyChar (c : Char) : Prop :=
  c.isDigit = true ∨ c = '.' ∨ (isBlank c = true ∧ c.toNat < 127)

theorem toLower_bodyChar {c : Char} (h : BodyChar c) : c.toLower = c := by
  -- every character of a body lies below the capital letters
  have hlow : c.toNat < 65 := by
    rcases h with h | rfl | ⟨hb, hascii⟩
    · have := isDigit_toNat_le h
      omega
    · decide
    · have := toNat_le_of_isBlank hb hascii
      omega
  have hupper : ¬ (c.val ≥ 'A'.val ∧ c.val ≤ 'Z'.val) := by
    intro hu
    have h2 := hu.1
    simp only [UInt32.le_iff_toNat_le] at h2
    have hA : 'A'.val.toNat = 65 := rfl
    have hc : c.toNat = c.val.toNat := rfl
    omega
  unfold Char.toLower
  rw [dif_neg hupper]

theorem ofList_ne_of_mem {b : List Char} (hb : ∀ c ∈ b, BodyChar c) {w : String} {c : Char}
    (hc : c ∈ w.toList) (hcb : ¬ BodyChar c) : String.ofList b ≠ w := by
  rintro rfl
  rw [String.toList_ofList] at hc
  exact hcb (hb c hc)

/-- A body of digits, points and spaces spells none of the words `inf`, `infinity` and `nan`. -/
theorem lowerWords_body {b : List Char} (hb : ∀ c ∈ b, BodyChar c) :
    (String.ofList (b.map Char.toLower) == "inf" ||
      String.ofList (b.map Char.toLower) == "infinity") = false ∧
    (String.ofList (b.map Char.toLower) == "nan") = false := by
  have hmap : b.map Char.toLower = b := by
    conv_rhs => rw [← List.map_id b]
    exact List.map_congr_left fun c hc => toLower_bodyChar (hb c hc)
  have hi : ¬ BodyChar 'i' := by unfold BodyChar; decide
  have hn : ¬ BodyChar 'n' := by unfold BodyChar; decide
  rw [hmap]
  refine ⟨?_, ?_⟩
  · rw [beq_false_of_ne (ofList_ne_of_mem hb (by decide) hi),
      beq_false_of_ne (ofList_ne_of_mem hb (by decide) hi)]
    rfl
  · exact beq_false_of_ne (ofList_ne_of_mem hb (by decide) hn)

variable {neg : Bool}

/-- A numeral is read as the double nearest to its digits, scaled down by the length of its
fraction. -/
theorem readUnsignedReal_numeral {w f : List Char} (hdig : ∀ c ∈ w ++ f, c.isDigit = true)
    (hne : w ++ f ≠ []) {b : List Char} (hb : b = w ∧ f = [] ∨ b = w ++ '.' :: f) :
    readUnsignedReal neg b =
      some (nearestDouble neg (digitsValue (w ++ f)) (-(f.length : Int))) := by
  have hw : ∀ c ∈ w, c.isDigit = true := fun c hc => hdig c (List.mem_append_left f hc)
  have hf : ∀ c ∈ f, c.isDigit = true := fun c hc => hdig c (List.mem_append_right w hc)
  have hbody : ∀ c ∈ b, BodyChar c := by
    rcases hb with ⟨rfl, -⟩ | rfl
    · exact fun c hc => Or.inl (hw c hc)
    · intro c hc
      simp only [List.mem_append, List.mem_cons] at hc
      rcases hc with hc | rfl | hc
      · exact Or.inl (hw c hc)
      · exact Or.inr (Or.inl rfl)
      · exact Or.inl (hf c hc)
  obtain ⟨hinf, hnan⟩ := lowerWords_body hbody
  have hpoint : Char.isDigit '.' = false := by decide
  rcases hb with ⟨rfl, rfl⟩ | rfl
  · have ht : b.takeWhile Char.isDigit = b := List.takeWhile_eq_self_iff.2 hw
    have hd : b.dropWhile Char.isDigit = [] := List.dropWhile_eq_nil_iff.2 hw
    simp only [List.append_nil] at hne
    simp only [readUnsignedReal, hinf, hnan, Bool.false_eq_true, if_false]
    simp [ht, hd, hne]
  · have ht : (w ++ '.' :: f).takeWhile Char.isDigit = w := by
      rw [List.takeWhile_append_of_pos hw, List.takeWhile_cons_of_neg (by simp [hpoint]),
        List.append_nil]
    have hd : (w ++ '.' :: f).dropWhile Char.isDigit = '.' :: f := by
      rw [List.dropWhile_append_of_pos hw, List.dropWhile_cons_of_neg (by simp [hpoint])]
    have hft : f.takeWhile Char.isDigit = f := List.takeWhile_eq_self_iff.2 hf
    have hfd : f.dropWhile Char.isDigit = [] := List.dropWhile_eq_nil_iff.2 hf
    simp only [readUnsignedReal, hinf, hnan, Bool.false_eq_true, if_false]
    have hempty : (w.isEmpty && f.isEmpty) = false := by
      rw [Bool.eq_false_iff]
      intro h
      simp only [Bool.and_eq_true, List.isEmpty_iff] at h
      exact hne (by rw [h.1, h.2]; rfl)
    rw [hd, ht]
    simp [hft, hfd, hempty]

/-- In a body, what follows the leading digits starts with a point or a blank. -/
theorem head_dropWhile_isDigit {b : List Char} (hb : ∀ c ∈ b, BodyChar c) {c : Char}
    {r : List Char} (h : b.dropWhile Char.isDigit = c :: r) : c = '.' ∨ isBlank c = true := by
  have hmem : c ∈ b := (List.dropWhile_sublist _).subset (by rw [h]; exact List.mem_cons_self)
  have hd : c.isDigit = false := by
    simpa [h] using @List.head_dropWhile_not _ Char.isDigit b (by rw [h]; simp)
  rcases hb c hmem with hdig | hp | hs
  · exact absurd (hdig.symm.trans hd) (by decide)
  · exact .inl hp
  · exact .inr hs.1

/-- A blank is no point and starts no exponent. -/
theorem isBlank_not_point {c : Char} (h : isBlank c = true) :
    c ≠ '.' ∧ (c == 'e' || c == 'E') = false := by
  have hne : ∀ d : Char, isBlank d = false → c ≠ d := by
    rintro d hd rfl
    rw [h] at hd
    exact Bool.noConfusion hd
  refine ⟨hne '.' (by decide), ?_⟩
  rw [Bool.or_eq_false_iff, beq_eq_false_iff_ne, beq_eq_false_iff_ne]
  exact ⟨hne 'e' (by decide), hne 'E' (by decide)⟩

/-- A body of digits, points and spaces that is read as a number is a numeral. -/
theorem pointNumeral_of_readUnsignedReal {b : List Char} (hb : ∀ c ∈ b, BodyChar c)
    (h : readUnsignedReal neg b ≠ none) : PointNumeral Char.isDigit b := by
  obtain ⟨hinf, hnan⟩ := lowerWords_body hb
  have hsplit : b = b.takeWhile Char.isDigit ++ b.dropWhile Char.isDigit :=
    List.takeWhile_append_dropWhile.symm
  have hwd : ∀ c ∈ b.takeWhile Char.isDigit, c.isDigit = true :=
    fun c hc => List.mem_takeWhile_imp hc
  have hhead := @head_dropWhile_isDigit b hb
  simp only [readUnsignedReal, hinf, hnan, Bool.false_eq_true, if_false] at h
  generalize b.takeWhile Char.isDigit = w at h hsplit hwd
  generalize b.dropWhile Char.isDigit = r at h hsplit hhead
  cases r with
  | nil =>
    -- no point: the body is its leading digits
    simp only [List.append_nil] at hsplit
    simp at h
    exact ⟨w, [], by simpa using hwd, by simpa using h, .inl ⟨hsplit, rfl⟩⟩
  | cons c r' =>
    -- a blank after the digits starts no exponent, so it is a point
    rcases hhead rfl with rfl | hblank
    swap
    · obtain ⟨hpoint, hexp⟩ := isBlank_not_point hblank
      split at h
      · rename_i hcons
        exact absurd (List.cons.inj hcons).1 hpoint
      · simp [hexp] at h
    simp only at h
    have hr' : ∀ c ∈ r', BodyChar c := fun c hc => hb c (by rw [hsplit]; simp [hc])
    have hsplit' : r' = r'.takeWhile Char.isDigit ++ r'.dropWhile Char.isDigit :=
      List.takeWhile_append_dropWhile.symm
    have hft : ∀ c ∈ r'.takeWhile Char.isDigit, c.isDigit = true :=
      fun c hc => List.mem_takeWhile_imp hc
    have hhead' := @head_dropWhile_isDigit r' hr'
    generalize r'.takeWhile Char.isDigit = f at h hft hsplit'
    generalize r'.dropWhile Char.isDigit = rest at h hsplit' hhead'
    cases rest with
    | nil =>
      -- the fraction ends the body
      simp only [List.append_nil] at hsplit'
      have hne : w ++ f ≠ [] := by
        intro hnil
        rw [List.append_eq_nil_iff] at hnil
        simp [hnil] at h
      refine ⟨w, f, fun c hc => ?_, hne, .inr (by rw [hsplit, hsplit'])⟩
      rcases List.mem_append.1 hc with hc | hc
      · exact hwd c hc
      · exact hft c hc
    | cons e r'' =>
      -- a point or a blank after the fraction starts no exponent
      rcases hhead' rfl with rfl | hblank
      · simp at h
      · simp [(isBlank_not_point hblank).2] at h

/-! ## Cells the guard admits -/

/-- A character the numeric guard admits: a blank, a digit of any script or a point. -/
def GuardChar (c : Char) : Prop := isBlank c = true ∨ isDecimal c = true ∨ c = '.'

/-- Normalization keeps what the guard's characters are: blanks become spaces, digits ASCII
digits and points stay. -/
theorem normalizeChar_guard {c : Char} (h : GuardChar c) :
    BodyChar (normalizeChar c) ∧ (normalizeChar c).isDigit = isDecimal c ∧
      (normalizeChar c = '.' ↔ c = '.') := by
  by_cases hascii : c.toNat < 127
  · -- ASCII is kept, and its decimal digits are the digits `0` to `9`
    have hn : normalizeChar c = c := if_pos hascii
    have hdec : isDecimal c = c.isDigit := isDecimal_of_ascii (by omega)
    rw [hn, hdec]
    refine ⟨?_, rfl, Iff.rfl⟩
    rcases h with hb | hd | hp
    · exact .inr (.inr ⟨hb, hascii⟩)
    · exact .inl (hdec ▸ hd)
    · exact .inr (.inl hp)
  have hpoint : c ≠ '.' := by
    rintro rfl
    exact hascii (by decide)
  by_cases hb : isBlank c = true
  · have hn : normalizeChar c = ' ' := by simp [normalizeChar, hascii, hb]
    rw [hn, isDecimal_of_isBlank hb]
    exact ⟨.inr (.inr ⟨by decide, by decide⟩), rfl, by simp [hpoint]⟩
  rw [Bool.not_eq_true] at hb
  cases hd : digitValue? c with
  | some d =>
    have hn : normalizeChar c = Char.ofNat (48 + d) := by simp [normalizeChar, hascii, hb, hd]
    obtain ⟨-, hdigit, -⟩ := ascii_digit_of_lt ⟨d, digitValue?_lt_ten hd⟩
    have hdec : isDecimal c = true := by simp [isDecimal, hd]
    rw [hn, hdec]
    refine ⟨Or.inl hdigit, hdigit, ?_⟩
    simp only [hpoint, iff_false]
    intro heq
    rw [heq] at hdigit
    exact absurd hdigit (by decide)
  | none =>
    -- no blank, no digit and no point: the guard does not admit it
    have hdec : isDecimal c = false := by simp [isDecimal, hd]
    rcases h with h | h | h
    · exact absurd (hb.symm.trans h) Bool.false_ne_true
    · exact absurd (hdec.symm.trans h) Bool.false_ne_true
    · exact absurd h hpoint

/-- The trimmed body of a cell the guard admits, normalized, is a numeral exactly when the
trimmed cell is one over the digits of every script. -/
theorem pointNumeral_map_normalize {t : List Char} (ht : ∀ c ∈ t, GuardChar c) :
    PointNumeral Char.isDigit (t.map normalizeChar) ↔ PointNumeral isDecimal t := by
  have hdig : ∀ c ∈ t, (normalizeChar c).isDigit = isDecimal c :=
    fun c hc => (normalizeChar_guard (ht c hc)).2.1
  constructor
  · rintro ⟨w', f', hd', hne', hshape⟩
    rcases hshape with ⟨hw', rfl⟩ | hw'
    · refine ⟨t, [], fun c hc => ?_, by simpa [← hw'] using hne', .inl ⟨rfl, rfl⟩⟩
      rw [List.append_nil] at hc
      rw [← hdig c hc]
      exact hd' _ (by simp [← hw', List.mem_map_of_mem hc])
    · obtain ⟨w, t2, rfl, hw, ht2⟩ := List.map_eq_append_iff.1 hw'
      obtain ⟨p, f, rfl, hp, hf⟩ := List.map_eq_cons_iff.1 ht2
      have hpoint : p = '.' := (normalizeChar_guard (ht p (by simp))).2.2.1 hp
      subst hpoint
      refine ⟨w, f, fun c hc => ?_, ?_, .inr rfl⟩
      · have hct : c ∈ w ++ '.' :: f := by
          rcases List.mem_append.1 hc with hc | hc <;> simp [hc]
        rw [← hdig c hct]
        apply hd'
        rcases List.mem_append.1 hc with hc | hc
        · exact List.mem_append_left _ (hw ▸ List.mem_map_of_mem hc)
        · exact List.mem_append_right _ (hf ▸ List.mem_map_of_mem hc)
      · intro hnil
        rw [List.append_eq_nil_iff] at hnil
        apply hne'
        rw [← hw, ← hf, hnil.1, hnil.2]
        rfl
  · rintro ⟨w, f, hd, hne, hshape⟩
    have hwf : ∀ c ∈ w ++ f, c ∈ t := by
      intro c hc
      rcases hshape with ⟨rfl, rfl⟩ | rfl
      · simpa using hc
      · rcases List.mem_append.1 hc with hc | hc <;> simp [hc]
    refine ⟨w.map normalizeChar, f.map normalizeChar, fun c hc => ?_, ?_, ?_⟩
    · rw [← List.map_append] at hc
      obtain ⟨a, ha, rfl⟩ := List.mem_map.1 hc
      rw [hdig a (hwf a ha)]
      exact hd a ha
    · rw [← List.map_append]
      exact fun h => hne (List.map_eq_nil_iff.1 h)
    · rcases hshape with ⟨rfl, rfl⟩ | rfl
      · exact .inl ⟨rfl, rfl⟩
      · right
        have hp : normalizeChar '.' = '.' := by decide
        simp [hp]

/-- Trimming after mapping is mapping after trimming by the mapped test. -/
theorem trimBy_map (p : Char → Bool) (f : Char → Char) (cs : List Char) :
    trimBy p (cs.map f) = (trimBy (p ∘ f) cs).map f := by
  simp only [trimBy, List.dropWhile_map, ← List.map_reverse]

/-- The body of a cell the guard admits is the cell trimmed of the blanks reading strips, with
its digits made ASCII: it has no underscore to check. -/
theorem numberBody_guard {s : String} (hs : ∀ c ∈ s.toList, GuardChar c) :
    numberBody s = some ((trimBy isStrippedBlank s.toList).map normalizeChar) := by
  have hu : '_' ∉ s.toList.map normalizeChar := by
    intro hmem
    obtain ⟨c, hc, heq⟩ := List.mem_map.1 hmem
    have hbody := (normalizeChar_guard (hs c hc)).1
    rw [heq] at hbody
    exact absurd hbody (by unfold BodyChar; decide)
  have hfilter : (s.toList.map normalizeChar).filter (· != '_') = s.toList.map normalizeChar :=
    List.filter_eq_self.2 fun c hc => by
      have hne : c ≠ '_' := fun heq => hu (heq ▸ hc)
      simpa using hne
  have htest : isAsciiBlank ∘ normalizeChar = isStrippedBlank :=
    funext isAsciiBlank_normalizeChar
  simp only [numberBody, normalizeDigits, underscoresBetweenDigits,
    @underscoresBetweenDigits_go '\x00' (by decide) _ hu, hfilter, if_true, trimAsciiBlank,
    trimBy_map, htest]

/-- A body that starts with a digit, a point or a blank has no sign. -/
theorem splitSign_of_body {b : List Char} (hb : ∀ c ∈ b, BodyChar c) : splitSign b = (false, b) := by
  cases b with
  | nil => rfl
  | cons c rest =>
    have hc := hb c List.mem_cons_self
    have hminus : c ≠ '-' := by
      rintro rfl
      rcases hc with h | h | h <;> revert h <;> decide
    have hplus : c ≠ '+' := by
      rintro rfl
      rcases hc with h | h | h <;> revert h <;> decide
    unfold splitSign
    split <;> simp_all

/-- Trimming keeps a cell's characters the guard's. -/
theorem guardChar_trim {s : String} (hs : ∀ c ∈ s.toList, GuardChar c) :
    ∀ c ∈ trimBy isStrippedBlank s.toList, GuardChar c :=
  fun c hc => hs c ((Csv.trimBy_sublist _ _).subset hc)

/-- A cell the guard admits, trimmed and normalized, is a body of digits, points and blanks. -/
theorem bodyChar_normalized {s : String} (hs : ∀ c ∈ s.toList, GuardChar c) :
    ∀ c ∈ (trimBy isStrippedBlank s.toList).map normalizeChar, BodyChar c := by
  intro c hc
  obtain ⟨a, ha, rfl⟩ := List.mem_map.1 hc
  exact (normalizeChar_guard (guardChar_trim hs a ha)).1

/-- A cell the guard admits is read as the unsigned numeral its trimmed body spells. -/
theorem readReal?_guard {s : String} (hs : ∀ c ∈ s.toList, GuardChar c) :
    readReal? s = readUnsignedReal false ((trimBy isStrippedBlank s.toList).map normalizeChar) := by
  simp only [readReal?, numberBody_guard hs, Option.bind_eq_bind, Option.bind_some,
    splitSign_of_body (bodyChar_normalized hs)]

/-- The digits of a numeral's shape are characters of the text it shapes. -/
theorem mem_of_numeral_shape {cs w f : List Char} (h : cs = w ∧ f = [] ∨ cs = w ++ '.' :: f)
    {c : Char} (hc : c ∈ w ++ f) : c ∈ cs := by
  rcases h with ⟨rfl, rfl⟩ | rfl
  · simpa using hc
  · rcases List.mem_append.1 hc with hc | hc <;> simp [hc]

/-- A cell the guard admits whose trimmed text is a numeral is read as the double nearest to
the numeral's value, its digits read by their values in their script. -/
theorem readReal?_numeral {s : String} (hs : ∀ c ∈ s.toList, GuardChar c) {w f : List Char}
    (hdig : ∀ c ∈ w ++ f, isDecimal c = true) (hne : w ++ f ≠ [])
    (hshape : trimBy isStrippedBlank s.toList = w ∧ f = [] ∨
      trimBy isStrippedBlank s.toList = w ++ '.' :: f) :
    readReal? s = some (nearestDouble false (digitsValue ((w ++ f).map normalizeChar))
      (-(f.length : Int))) := by
  have hguard : ∀ c ∈ w ++ f, GuardChar c :=
    fun c hc => guardChar_trim hs c (mem_of_numeral_shape hshape hc)
  have hdig' : ∀ c ∈ w.map normalizeChar ++ f.map normalizeChar, c.isDigit = true := by
    intro c hc
    rw [← List.map_append] at hc
    obtain ⟨a, ha, rfl⟩ := List.mem_map.1 hc
    rw [(normalizeChar_guard (hguard a ha)).2.1]
    exact hdig a ha
  have hne' : w.map normalizeChar ++ f.map normalizeChar ≠ [] := by
    rw [← List.map_append]
    exact fun h => hne (List.map_eq_nil_iff.1 h)
  have hshape' : (trimBy isStrippedBlank s.toList).map normalizeChar = w.map normalizeChar ∧
        f.map normalizeChar = [] ∨
      (trimBy isStrippedBlank s.toList).map normalizeChar =
        w.map normalizeChar ++ '.' :: f.map normalizeChar := by
    have hp : normalizeChar '.' = '.' := by decide
    rcases hshape with ⟨h, rfl⟩ | h
    · exact .inl ⟨by rw [h], rfl⟩
    · exact .inr (by rw [h, List.map_append, List.map_cons, hp])
  rw [readReal?_guard hs, readUnsignedReal_numeral hdig' hne' hshape', ← List.map_append,
    List.length_map]

/-- A cell the guard admits whose trimmed text is no numeral is not read as a number. -/
theorem readReal?_eq_none {s : String} (hs : ∀ c ∈ s.toList, GuardChar c)
    (hnum : ¬ PointNumeral isDecimal (trimBy isStrippedBlank s.toList)) : readReal? s = none := by
  by_contra hsome
  rw [readReal?_guard hs] at hsome
  -- a body that is read as a number is a numeral, and so is the cell it was made from
  have hread := pointNumeral_of_readUnsignedReal (bodyChar_normalized hs) hsome
  exact hnum ((pointNumeral_map_normalize (guardChar_trim hs)).1 hread)

end Tabula.Decimal

namespace Tabula.Tool

open Tabula.Decimal Tabula.Text Tabula.Query

/-- Every character of a cell that passes the numeric guard is a blank, a digit or a point. -/
theorem guardChar_of_looksNumeric {s : String} (hs : looksNumeric s = true) :
    ∀ c ∈ s.toList, GuardChar c := by
  simp only [looksNumeric, Bool.and_eq_true, List.all_eq_true, Bool.or_eq_true,
    beq_iff_eq] at hs
  exact fun c hc => or_assoc.1 (hs.2 c hc)

variable (kit : Toolkit)

/-- Both numeric conversions of a guarded cell that is no numeral fail, naming the cell. -/
theorem convertText_of_not_numeral {s : String} (hs : looksNumeric s = true)
    (hnum : ¬ PointNumeral isDecimal (trimBy isStrippedBlank s.toList)) :
    convertText kit .real s = .error (.notReal s) ∧
      convertText kit .whole s = .error (.notReal s) := by
  have hnone := readReal?_eq_none (guardChar_of_looksNumeric hs) hnum
  simp only [convertText, hs, hnone, Bool.not_true, Bool.false_eq_true, if_false]
  exact ⟨rfl, rfl⟩

/-- The numeric guard admits cells that are not numbers. A cell it admits whose text, trimmed
of the blanks reading strips, is a numeral (digits of any script with at most one point, and a
digit at least) converts to the double nearest to the numeral's value; every other cell it
admits fails both numeric conversions with the fault that names it. -/
theorem convertText_guarded {s : String} (hs : looksNumeric s = true) :
    (∀ w f : List Char, (∀ c ∈ w ++ f, isDecimal c = true) → w ++ f ≠ [] →
      (trimBy isStrippedBlank s.toList = w ∧ f = [] ∨
        trimBy isStrippedBlank s.toList = w ++ '.' :: f) →
      convertText kit .real s = .ok (.float (nearestDouble false
        (digitsValue ((w ++ f).map normalizeChar)) (-(f.length : Int))))) ∧
    (¬ PointNumeral isDecimal (trimBy isStrippedBlank s.toList) →
      convertText kit .real s = .error (.notReal s) ∧
        convertText kit .whole s = .error (.notReal s)) := by
  refine ⟨fun w f hdig hne hshape => ?_, convertText_of_not_numeral kit hs⟩
  simp only [convertText, hs, readReal?_numeral (guardChar_of_looksNumeric hs) hdig hne hshape,
    Bool.not_true, Bool.false_eq_true, if_false]
  rfl

/-- A separator is a blank to the guard but no blank around a number. -/
example : convertText kit .real "\x1c1" = .error (.notReal "\x1c1") := by
  have hnum : ¬ PointNumeral isDecimal (trimBy isStrippedBlank "\x1c1".toList) := by
    rintro ⟨w, f, hdig, -, hshape⟩
    have hsep : trimBy isStrippedBlank "\x1c1".toList = ['\x1c', '1'] := by decide
    -- the separator leads the text, so it is a digit before the point, or the point
    have hmem : '\x1c' ∈ w ++ f := by
      rcases hshape with ⟨hw, -⟩ | hw <;> rw [hsep] at hw
      · simp [← hw]
      · cases w with
        | nil => simp at hw
        | cons a w' =>
          rw [List.cons_append, List.cons.injEq] at hw
          obtain ⟨rfl, -⟩ := hw
          exact List.mem_append_left _ List.mem_cons_self
    exact absurd (hdig _ hmem) (by decide)
  exact (convertText_of_not_numeral kit (by decide) hnum).1

theorem convertText_guarded_blanks :
    looksNumeric " 1.5 " = true ∧
      ((∀ w f : List Char, (∀ c ∈ w ++ f, isDecimal c = true) → w ++ f ≠ [] →
        (trimBy isStrippedBlank " 1.5 ".toList = w ∧ f = [] ∨
          trimBy isStrippedBlank " 1.5 ".toList = w ++ '.' :: f) →
        convertText .unavailable .real " 1.5 " = .ok (.float (nearestDouble false
          (digitsValue ((w ++ f).map normalizeChar)) (-(f.length : Int))))) ∧
      (¬ PointNumeral isDecimal (trimBy isStrippedBlank " 1.5 ".toList) →
        convertText .unavailable .real " 1.5 " = .error (.notReal " 1.5 ") ∧
          convertText .unavailable .whole " 1.5 " = .error (.notReal " 1.5 "))) :=
  ⟨by decide, convertText_guarded .unavailable (by decide)⟩

/-- A lone point is no numeral: it has no digit. -/
theorem not_pointNumeral_point {digit : Char → Bool} (hpoint : digit '.' = false) :
    ¬ PointNumeral digit ['.'] := by
  rintro ⟨w, f, hdig, hne, hshape⟩
  rcases hshape with ⟨rfl, rfl⟩ | hw
  · exact absurd (hdig '.' (by simp)) (by simp [hpoint])
  · -- the point is the text's only character, so there are no digits around it
    cases w with
    | nil =>
      simp only [List.nil_append, List.cons.injEq, true_and] at hw
      exact hne (by rw [← hw]; rfl)
    | cons a w' => simp at hw

/-- The guard admits a lone point. The table for a real column named `a` is created, and
loading a row whose `a` holds a lone point into it fails. -/
theorem loadRows_point_cell :
    looksNumeric "." = true ∧
      ∃ t, sqlEngine.create (createStatement ["a"] [("a", .real)]) = .ok t ∧
        loadRows .unavailable sqlEngine ["a"] [("a", .real)] t [[("a", ".")]] =
          .error (.notReal ".") := by
  have hguard : looksNumeric "." = true := by decide
  have htrim : trimBy isStrippedBlank ".".toList = ['.'] := by decide
  have hconv := (convertText_of_not_numeral .unavailable hguard
    (by rw [htrim]; exact not_pointNumeral_point (by decide))).1
  have hcreate : (match sqlEngine.create (createStatement ["a"] [("a", .real)]) with
      | .ok _ => true
      | .error _ => false) = true := by
    decide
  refine ⟨hguard, ?_⟩
  split at hcreate
  · rename_i t ht
    refine ⟨t, ht, ?_⟩
    -- the conversion fails before the engine sees the row
    simp [loadRows, convertRow, convertRow.step, convertCell, hconv, Csv.Row.get?, List.lookup]
    rfl
  · exact absurd hcreate Bool.false_ne_true

end Tabula.Tool
