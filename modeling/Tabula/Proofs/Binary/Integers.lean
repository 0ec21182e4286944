import Mathlib
import Tabula.Binary.Float

/-!
# Whole numbers as doubles

A whole number of less than 53 bits is a double as it is: rounding it to the double format
leaves it exact (`round_whole`), and the bits `ofInt` writes for it are those of a normal double
whose significand is the number shifted up to 53 bits (`unpack_ofInt`). The comparison of
doubles reads their bits as sign, exponent and significand, and on such numbers it is the
comparison of the numbers: `ofInt` preserves and reflects the order (`ofInt_lt_ofInt_iff`) and
tells the numbers apart (`ofInt_inj`).

The bits are read through the fields of the 64-bit pattern (`unpack_normal`): one sign bit, an
exponent field of 11 bits and a fraction of 52, with the leading bit of a normal significand
left implicit. Packing the fields of a normal double gives its bits back (`pack_normal`), so a
double made from normal bits unpacks as those bits (`unpack_ofBits_normal`).
-/

namespace Tabula.Binary

open Float.Model Float.Model.UnpackedFloat

/-! ## The fields of a double -/

/-- The sign a sign bit stands for. -/
def signOfBit (s : Nat) : Sign := if s = 0 then .positive else .negative

theorem toNat_unpackMantissa (b : BitVec 64) :
    (@unpackMantissa Format.binary64 b).toNat = b.toNat % 2 ^ 52 := by
  simp [unpackMantissa]

theorem toNat_unpackExponent (b : BitVec 64) :
    (@unpackExponent Format.binary64 b).toNat = b.toNat / 2 ^ 52 % 2 ^ 11 := by
  simp [unpackExponent, Nat.shiftRight_eq_div_pow]

theorem toNat_unpackSign (b : BitVec 64) :
    (@unpackSign Format.binary64 b).toNat = b.toNat / 2 ^ 63 % 2 := by
  simp [unpackSign, Nat.shiftRight_eq_div_pow]

theorem ofBitVec_unpackSign {b : BitVec 64} {S : Nat} (hS : b.toNat / 2 ^ 63 % 2 = S) :
    Sign.ofBitVec (@unpackSign Format.binary64 b) = signOfBit S := by
  have h := toNat_unpackSign b
  rw [hS] at h
  unfold Sign.ofBitVec signOfBit
  rcases (show S = 0 ∨ S = 1 by omega) with rfl | rfl
  · rw [if_pos (BitVec.eq_of_toNat_eq h), if_pos rfl]
  · rw [if_neg (fun h' => absurd (congrArg BitVec.toNat h') (by rw [h]; decide)),
      if_neg (by decide)]

/-- The bits of a normal double: a sign bit, an exponent field from 1 to 2046 and a fraction. -/
theorem unpack_normal {b : BitVec 64} {S E F : Nat} (hS : S ≤ 1) (hE1 : 1 ≤ E) (hE : E ≤ 2046)
    (hF : F < 2 ^ 52) (hb : b.toNat = S * 2 ^ 63 + E * 2 ^ 52 + F) :
    UnpackedFloat.unpack Format.binary64 b =
      .finite (signOfBit S) (2 ^ 52 + F) (E - 1075) (by positivity) := by
  have hexp : (@unpackExponent Format.binary64 b).toNat = E := by
    rw [toNat_unpackExponent, hb]
    omega
  have hmant : (@unpackMantissa Format.binary64 b).toNat = F := by
    rw [toNat_unpackMantissa, hb]
    omega
  have hsign : Sign.ofBitVec (@unpackSign Format.binary64 b) = signOfBit S :=
    ofBitVec_unpackSign (by rw [hb]; omega)
  unfold UnpackedFloat.unpack
  rw [if_neg (fun h => by have := congrArg BitVec.toNat h; rw [hexp] at this; simp at this; omega),
    if_neg (fun h => by have := congrArg BitVec.toNat h; rw [hexp] at this; simp at this; omega)]
  simp only [hsign, BitVec.toNat_append, hexp, hmant]
  -- the implicit leading bit above the fraction
  have hlead : (1#1).toNat <<< 52 ||| F = 2 ^ 52 + F := by
    rw [← Nat.shiftLeft_add_eq_or_of_lt hF, Nat.shiftLeft_eq]
    simp
  have hbias : Format.binary64.exponentBias = 1023 := rfl
  simp only [hlead, hbias]
  congr 1

/-! ## Normal doubles -/

theorem toNat_signOfBit {S : Nat} (hS : S ≤ 1) : (signOfBit S).toBitVec.toNat = S := by
  rcases (show S = 0 ∨ S = 1 by omega) with rfl | rfl <;> rfl

theorem log2_normal {F : Nat} (hF : F < 2 ^ 52) : (2 ^ 52 + F).log2 = 52 := by
  have hne : 2 ^ 52 + F ≠ 0 := by positivity
  have hlo : 52 ≤ (2 ^ 52 + F).log2 := (Nat.le_log2 hne).2 (by omega)
  have hhi : (2 ^ 52 + F).log2 < 53 := (Nat.log2_lt hne).2 (by omega)
  omega

/-- Packing a normal double gives back its bits. -/
theorem pack_normal {S E F : Nat} (hS : S ≤ 1) (hE1 : 1 ≤ E) (hE : E ≤ 2046) (hF : F < 2 ^ 52)
    (hm : 0 < 2 ^ 52 + F) :
    (UnpackedFloat.pack Format.binary64 (.finite (signOfBit S) (2 ^ 52 + F) (E - 1075) hm)).toNat =
      S * 2 ^ 63 + E * 2 ^ 52 + F := by
  have hbias : Format.binary64.exponentBias = 1023 := rfl
  have hbiased :
      ((E : Int) - 1075 + (Format.binary64.exponentBias : Nat) + (52 : Nat)).toNat = E := by
    rw [hbias]
    omega
  unfold UnpackedFloat.pack
  simp only [hbiased, log2_normal hF]
  rw [if_neg (by simp; omega), if_pos (show 52 + 1 = Format.binary64.mantissaBits from rfl)]
  simp only [packComponents, BitVec.toNat_append, toNat_signOfBit hS, BitVec.toNat_ofNat]
  -- the fields do not overlap, so the bitwise or is a sum
  rw [Nat.mod_eq_of_lt (show E < 2 ^ 11 by omega), show (2 ^ 52 + F) % 2 ^ 52 = F by omega,
    ← Nat.shiftLeft_add_eq_or_of_lt (show E < 2 ^ 11 by omega),
    ← Nat.shiftLeft_add_eq_or_of_lt hF, Nat.shiftLeft_eq, Nat.shiftLeft_eq]
  omega

/-- A double read from normal bits unpacks as those bits: packing them again changes nothing. -/
theorem unpack_ofBits_normal {u : UInt64} {S E F : Nat} (hS : S ≤ 1) (hE1 : 1 ≤ E)
    (hE : E ≤ 2046) (hF : F < 2 ^ 52) (hu : u.toNat = S * 2 ^ 63 + E * 2 ^ 52 + F) :
    (Float.ofBits u).toModel.unpack =
      .finite (signOfBit S) (2 ^ 52 + F) (E - 1075) (by positivity) := by
  have hbits : UnpackedFloat.unpack Format.binary64 u.toBitVec = _ :=
    unpack_normal hS hE1 hE hF (by rw [UInt64.toNat_toBitVec, hu])
  have hpack := pack_normal hS hE1 hE hF (by positivity)
  show UnpackedFloat.unpack Format.binary64
    (UInt64.ofBitVec (UnpackedFloat.pack Format.binary64
      (UnpackedFloat.unpack Format.binary64 u.toBitVec))).toBitVec = _
  rw [hbits, UInt64.toBitVec_ofBitVec]
  exact unpack_normal hS hE1 hE hF hpack

/-! ## Whole numbers below `2 ^ 53` -/

/-- The significand of a positive whole number below `2 ^ 53`: the number shifted up to 53
bits. -/
def normMant (n : Nat) : Nat := n * 2 ^ (52 - n.log2)

theorem normMant_bounds {n : Nat} (h0 : 0 < n) (h : n < 2 ^ 53) :
    2 ^ 52 ≤ normMant n ∧ normMant n < 2 ^ 53 := by
  have hlo := Nat.log2_self_le (Nat.pos_iff_ne_zero.1 h0)
  have hhi := @Nat.lt_log2_self n
  have hL : n.log2 < 53 := (Nat.log2_lt (Nat.pos_iff_ne_zero.1 h0)).2 h
  unfold normMant
  constructor
  · calc 2 ^ 52 = 2 ^ n.log2 * 2 ^ (52 - n.log2) := by rw [← pow_add]; congr 1; omega
      _ ≤ n * 2 ^ (52 - n.log2) := Nat.mul_le_mul_right _ hlo
  · calc n * 2 ^ (52 - n.log2) < 2 ^ (n.log2 + 1) * 2 ^ (52 - n.log2) :=
          Nat.mul_lt_mul_of_pos_right hhi (by positivity)
      _ = 2 ^ 53 := by rw [← pow_add]; congr 1; omega

theorem floorLog2_whole {n : Nat} (h0 : 0 < n) : floorLog2 n 1 = n.log2 := by
  have hlo := Nat.log2_self_le (Nat.pos_iff_ne_zero.1 h0)
  have hone : Nat.log2 1 = 0 :=
    Nat.le_zero.1 (Nat.lt_succ_iff.1 ((Nat.log2_lt one_ne_zero).2 (by decide)))
  unfold floorLog2
  simp only [hone, Nat.pow_eq, pow_zero, mul_one, one_mul]
  rw [if_pos hlo]
  simp

theorem divRoundEven_one (x : Nat) : divRoundEven x 1 = x := by
  simp [divRoundEven, Nat.mod_one]

/-- A whole number below `2 ^ 53` is a double as it is: rounding leaves it exact. -/
theorem round_whole {n : Nat} (h0 : 0 < n) (h : n < 2 ^ 53) :
    Format.double.round n 1 = .finite (normMant n) (n.log2 - 52) := by
  have hL : n.log2 < 53 := (Nat.log2_lt (Nat.pos_iff_ne_zero.1 h0)).2 h
  have hscale : scaleDownPow2 n 1 ((n.log2 : Int) - 52) = (normMant n, 1) := by
    unfold scaleDownPow2 normMant
    split
    · -- the largest exponent: the number has 53 bits already
      have hL52 : n.log2 = 52 := by omega
      simp [hL52]
    · rw [show (-((n.log2 : Int) - 52)).toNat = 52 - n.log2 by omega]
      simp
  have hmax : max ((n.log2 : Int) - ((53 - 1 : Nat) : Int)) (-1074) = n.log2 - 52 := by omega
  have hmant := normMant_bounds h0 h
  simp only [Format.round, Format.double, floorLog2_whole h0, hmax, hscale, divRoundEven_one,
    Nat.pow_eq]
  rw [if_neg (by simp; omega), if_neg (show ¬ normMant n = 2 ^ 53 by omega),
    if_neg (by simp; omega)]

/-- The sign bit of an integer. -/
def signBit (k : Int) : Nat := if k < 0 then 1 else 0

/-- A nonzero whole number below `2 ^ 53` in size is a normal double with its own sign, its
significand shifted up to 53 bits and the exponent that shifts it back. -/
theorem unpack_ofInt {k : Int} (hk0 : k ≠ 0) (hk : k.natAbs < 2 ^ 53) :
    (ofInt k).toModel.unpack =
      .finite (signOfBit (signBit k)) (normMant k.natAbs) (k.natAbs.log2 - 52)
        (by have := normMant_bounds (Int.natAbs_pos.2 hk0) hk; omega) := by
  have h0 : 0 < k.natAbs := Int.natAbs_pos.2 hk0
  have hmant := normMant_bounds h0 hk
  have hL : k.natAbs.log2 < 53 := (Nat.log2_lt (Nat.pos_iff_ne_zero.1 h0)).2 hk
  have hbits : (((if decide (k < 0) then Nat.pow 2 63 else 0) +
      (((k.natAbs.log2 : Int) - 52) + 1075).toNat * Nat.pow 2 52 +
        (normMant k.natAbs - Nat.pow 2 52)).toUInt64).toNat =
      signBit k * 2 ^ 63 + (k.natAbs.log2 + 1023) * 2 ^ 52 + (normMant k.natAbs - 2 ^ 52) := by
    have hexp : (((k.natAbs.log2 : Int) - 52) + 1075).toNat = k.natAbs.log2 + 1023 := by omega
    have hsign : (if decide (k < 0) then Nat.pow 2 63 else 0) = signBit k * 2 ^ 63 := by
      by_cases hneg : k < 0 <;> simp [hneg, signBit]
    rw [Nat.toUInt64_eq, UInt64.toNat_ofNat', hsign, hexp, Nat.pow_eq, Nat.mod_eq_of_lt]
    have : signBit k ≤ 1 := by unfold signBit; split <;> omega
    omega
  have hunpack := @unpack_ofBits_normal _ (signBit k) _ _ (by unfold signBit; split <;> omega)
    (by omega) (by omega) (by omega) hbits
  rw [ofInt, ofRatio, round_whole h0 hk, encode]
  simp only [Nat.pow_eq] at hunpack ⊢
  have hm : 2 ^ 52 + (normMant k.natAbs - 2 ^ 52) = normMant k.natAbs := by omega
  have he : ((k.natAbs.log2 + 1023 : Nat) : Int) - 1075 = k.natAbs.log2 - 52 := by omega
  rw [if_neg (by omega), hunpack]
  simp only [hm, he]

/-! ## Order -/

theorem unpack_ofInt_zero : (ofInt 0).toModel.unpack = .zero .positive := by
  rfl

theorem lt_iff_unpack {x y : Float} :
    x < y ↔ UnpackedFloat.lt x.toModel.unpack y.toModel.unpack = true := by
  show decide _ = true ↔ _
  rw [decide_eq_true_iff]
  rfl

/-- Normal significands and exponents of positive whole numbers compare as the numbers: the
exponent decides, and for equal exponents the significand. -/
theorem compare_normal {n n' : Nat} (h0 : 0 < n) (h0' : 0 < n') :
    (compare ((n.log2 : Int) - 52) ((n'.log2 : Int) - 52)).then
      (compare (normMant n) (normMant n')) = compare n n' := by
  have hlo := Nat.log2_self_le (Nat.pos_iff_ne_zero.1 h0)
  have hhi := @Nat.lt_log2_self n
  have hlo' := Nat.log2_self_le (Nat.pos_iff_ne_zero.1 h0')
  have hhi' := @Nat.lt_log2_self n'
  rcases lt_trichotomy n.log2 n'.log2 with hL | hL | hL
  · -- a shorter number is smaller
    have hle : 2 ^ (n.log2 + 1) ≤ 2 ^ n'.log2 := Nat.pow_le_pow_right (by omega) hL
    rw [compare_lt_iff_lt.2 (show (n.log2 : Int) - 52 < n'.log2 - 52 by omega),
      compare_lt_iff_lt.2 (show n < n' by omega)]
    rfl
  · -- the same exponent: the significands are the numbers shifted by the same amount
    rw [hL, compare_eq_iff_eq.2 rfl, Ordering.eq_then]
    unfold normMant
    rw [hL]
    have hpos : 0 < 2 ^ (52 - n'.log2) := by positivity
    rcases lt_trichotomy n n' with h | rfl | h
    · rw [compare_lt_iff_lt.2 h, compare_lt_iff_lt.2 (Nat.mul_lt_mul_of_pos_right h hpos)]
    · rw [compare_eq_iff_eq.2 rfl, compare_eq_iff_eq.2 rfl]
    · rw [compare_gt_iff_gt.2 h, compare_gt_iff_gt.2 (Nat.mul_lt_mul_of_pos_right h hpos)]
  · have hle : 2 ^ (n'.log2 + 1) ≤ 2 ^ n.log2 := Nat.pow_le_pow_right (by omega) hL
    rw [compare_gt_iff_gt.2 (show (n.log2 : Int) - 52 > n'.log2 - 52 by omega),
      compare_gt_iff_gt.2 (show n > n' by omega)]
    rfl

theorem unpack_ofInt_of_pos {k : Int} (h : 0 < k) (hk : k.natAbs < 2 ^ 53) :
    (ofInt k).toModel.unpack = .finite .positive (normMant k.natAbs) (k.natAbs.log2 - 52)
      (by have := normMant_bounds (Int.natAbs_pos.2 h.ne') hk; omega) := by
  rw [unpack_ofInt h.ne' hk]
  simp [signBit, signOfBit, not_lt.2 h.le]

theorem unpack_ofInt_of_neg {k : Int} (h : k < 0) (hk : k.natAbs < 2 ^ 53) :
    (ofInt k).toModel.unpack = .finite .negative (normMant k.natAbs) (k.natAbs.log2 - 52)
      (by have := normMant_bounds (Int.natAbs_pos.2 h.ne) hk; omega) := by
  rw [unpack_ofInt h.ne hk]
  simp [signBit, signOfBit, h]

/-- Two orders that agree on which is smaller and on equality compare alike. -/
theorem compare_eq_compare {α β : Type} [LinearOrder α] [LinearOrder β] {a b : α} {c d : β}
    (hlt : a < b ↔ c < d) (hgt : b < a ↔ d < c) : compare a b = compare c d := by
  rcases lt_trichotomy a b with h | rfl | h
  · rw [compare_lt_iff_lt.2 h, compare_lt_iff_lt.2 (hlt.1 h)]
  · have hcd : c = d := le_antisymm (not_lt.1 fun h' => lt_irrefl a (hgt.2 h'))
      (not_lt.1 fun h' => lt_irrefl a (hlt.2 h'))
    rw [compare_eq_iff_eq.2 rfl, compare_eq_iff_eq.2 hcd]
  · rw [compare_gt_iff_gt.2 h, compare_gt_iff_gt.2 (hgt.1 h)]

/-- The comparison of the doubles of two whole numbers below `2 ^ 53` in size is the
comparison of the numbers. -/
theorem compare_unpack_ofInt {a b : Int} (ha : a.natAbs < 2 ^ 53) (hb : b.natAbs < 2 ^ 53) :
    UnpackedFloat.compare (ofInt a).toModel.unpack (ofInt b).toModel.unpack =
      some (compare a b) := by
  rcases lt_trichotomy a 0 with ha0 | rfl | ha0 <;> rcases lt_trichotomy b 0 with hb0 | rfl | hb0
  · -- two negative numbers: the larger size is the smaller number
    rw [unpack_ofInt_of_neg ha0 ha, unpack_ofInt_of_neg hb0 hb]
    simp only [UnpackedFloat.compare,
      compare_normal (Int.natAbs_pos.2 ha0.ne) (Int.natAbs_pos.2 hb0.ne), Nat.compare_swap]
    exact congrArg some (compare_eq_compare (by omega) (by omega))
  · rw [unpack_ofInt_of_neg ha0 ha, unpack_ofInt_zero, compare_lt_iff_lt.2 ha0]
    rfl
  · rw [unpack_ofInt_of_neg ha0 ha, unpack_ofInt_of_pos hb0 hb, compare_lt_iff_lt.2 (by omega)]
    rfl
  · rw [unpack_ofInt_zero, unpack_ofInt_of_neg hb0 hb, compare_gt_iff_gt.2 hb0]
    rfl
  · rw [unpack_ofInt_zero, compare_eq_iff_eq.2 rfl]
    rfl
  · rw [unpack_ofInt_zero, unpack_ofInt_of_pos hb0 hb, compare_lt_iff_lt.2 hb0]
    rfl
  · rw [unpack_ofInt_of_pos ha0 ha, unpack_ofInt_of_neg hb0 hb, compare_gt_iff_gt.2 (by omega)]
    rfl
  · rw [unpack_ofInt_of_pos ha0 ha, unpack_ofInt_zero, compare_gt_iff_gt.2 ha0]
    rfl
  · rw [unpack_ofInt_of_pos ha0 ha, unpack_ofInt_of_pos hb0 hb]
    simp only [UnpackedFloat.compare,
      compare_normal (Int.natAbs_pos.2 ha0.ne') (Int.natAbs_pos.2 hb0.ne')]
    exact congrArg some (compare_eq_compare (by omega) (by omega))

/-- Doubles order the whole numbers below `2 ^ 53` in size as the numbers are ordered. -/
theorem ofInt_lt_ofInt_iff {a b : Int} (ha : a.natAbs < 2 ^ 53) (hb : b.natAbs < 2 ^ 53) :
    ofInt a < ofInt b ↔ a < b := by
  rw [lt_iff_unpack, UnpackedFloat.lt, compare_unpack_ofInt ha hb]
  simp [compare_lt_iff_lt]

/-- Doubles of whole numbers below `2 ^ 53` in size are equal, as doubles compare, exactly when
the numbers are equal. -/
theorem ofInt_beq_ofInt_iff {a b : Int} (ha : a.natAbs < 2 ^ 53) (hb : b.natAbs < 2 ^ 53) :
    (ofInt a == ofInt b) = true ↔ a = b := by
  show UnpackedFloat.beq (ofInt a).toModel.unpack (ofInt b).toModel.unpack = true ↔ a = b
  rw [UnpackedFloat.beq, compare_unpack_ofInt ha hb]
  simp

/-- Doubles of whole numbers below `2 ^ 53` in size are the same double only for equal
numbers. -/
theorem ofInt_inj {a b : Int} (ha : a.natAbs < 2 ^ 53) (hb : b.natAbs < 2 ^ 53) :
    ofInt a = ofInt b ↔ a = b := by
  refine ⟨fun h => ?_, congrArg ofInt⟩
  -- a double of a whole number equals itself as doubles compare
  have hself := (ofInt_beq_ofInt_iff hb hb).2 rfl
  nth_rewrite 1 [← h] at hself
  exact (ofInt_beq_ofInt_iff ha hb).1 hself

end Tabula.Binary
