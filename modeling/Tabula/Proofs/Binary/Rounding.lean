import Tabula.Proofs.Binary.Integers

/-!
# Rounding a ratio to a double, and reading it back

`Format.round` scales a ratio `num / den` to 53 bits by a power of two chosen from its binary
order of magnitude (`floorLog2`, whose meaning `floorLog2_spec` states), rounds the scaled
ratio to the nearest natural (`divRoundEven`) and keeps the power as the exponent; at the
least exponent the significand has fewer bits.

For a ratio below `2 ^ 52` the whole part survives rounding (`round_double_whole`). Scaled up
by `2 ^ k`, the ratio rounds up to the next multiple of `2 ^ k` only when it lies within
`2 ^ -k` of the next whole number, and a ratio with denominator below `2 ^ k` never does
(`divRoundEven_mul_pow_div`).

`encode` writes a significand and an exponent as the bits of a double and `decode` reads them
back. The bits of a normal double, of a subnormal one and of a zero survive the round trip
through the float model (`toBits_ofBits_normal`, `toBits_ofBits_subnormal`), so `decode`
returns what `encode` was given (`decode_encode_normal`, `decode_encode_subnormal`), and the
double nearest to a ratio below `2 ^ 52` is read back with the ratio's whole part
(`decode_ofRatio_whole`).
-/

namespace Tabula.Binary

open Float.Model Float.Model.UnpackedFloat

/-! ## Rounding a quotient to the nearest natural -/

theorem divRoundEven_cases (n d : Nat) :
    divRoundEven n d = n / d ∨ divRoundEven n d = n / d + 1 := by
  unfold divRoundEven
  dsimp only
  split_ifs <;> simp

/-- Scaled up by `2 ^ k` and rounded, a quotient keeps its whole part when the divisor is below
`2 ^ k`: the scaled quotient can only round up to the next multiple of `2 ^ k` if the
quotient is within `2 ^ -k` of the next whole number, and a quotient by `d` is never closer
to it than `1 / d`. -/
theorem divRoundEven_mul_pow_div {n d k : Nat} (hd : 0 < d) (hk : d < 2 ^ k) :
    divRoundEven (n * 2 ^ k) d / 2 ^ k = n / d := by
  have hpos : 0 < 2 ^ k := Nat.two_pow_pos k
  have hq : n * 2 ^ k / d / 2 ^ k = n / d := by
    rw [Nat.div_div_eq_div_mul, Nat.mul_div_mul_right _ _ hpos]
  rcases divRoundEven_cases (n * 2 ^ k) d with h | h
  · rw [h, hq]
  · rw [h, Nat.succ_div, hq, if_neg, Nat.add_zero]
    -- a multiple of `2 ^ k` right after the scaled quotient would put `2 ^ k` below `d`
    rintro ⟨t, ht⟩
    set m := n * 2 ^ k / d
    have hmt : m / 2 ^ k + 1 = t := by
      have : (m + 1) / 2 ^ k = t := by rw [ht, Nat.mul_div_cancel_left _ hpos]
      rw [Nat.succ_div, if_pos ⟨t, ht⟩] at this
      exact this
    rw [hq] at hmt
    have e1 : (m + 1) * d = 2 ^ k * t * d := by rw [ht]
    have e2 : m * d ≤ n * 2 ^ k := Nat.div_mul_le_self _ _
    have e3 : n + 1 ≤ t * d := by
      rw [← hmt, Nat.mul_comm]
      exact Nat.lt_mul_div_succ n hd
    have e4 : (n + 1) * 2 ^ k ≤ t * d * 2 ^ k := Nat.mul_le_mul_right _ e3
    nlinarith

/-! ## The binary order of magnitude of a ratio -/

/-- `floorLog2 num den` is the exponent `L` with `2 ^ L ≤ num / den < 2 ^ (L + 1)`, stated
after scaling by any `2 ^ k` that makes `L + k` natural. -/
theorem floorLog2_spec {num den : Nat} (hnum : 0 < num) (hden : 0 < den) {k : Nat}
    (hk : 0 ≤ floorLog2 num den + k) :
    den * 2 ^ (floorLog2 num den + k).toNat ≤ num * 2 ^ k ∧
      num * 2 ^ k < 2 * den * 2 ^ (floorLog2 num den + k).toNat := by
  have ha1 : 2 ^ num.log2 ≤ num := Nat.log2_self_le hnum.ne'
  have ha2 : num < 2 ^ (num.log2 + 1) := Nat.lt_log2_self
  have hb1 : 2 ^ den.log2 ≤ den := Nat.log2_self_le hden.ne'
  have hb2 : den < 2 ^ (den.log2 + 1) := Nat.lt_log2_self
  have hpb : 0 < 2 ^ den.log2 := Nat.two_pow_pos _
  unfold floorLog2 at hk ⊢
  simp only [Nat.pow_eq] at hk ⊢
  split_ifs at hk ⊢ with h
  · -- `num / den` is at least `2 ^ (a - b)`, where `a` and `b` are the sizes of `num`, `den`
    have hj : (((num.log2 : Int) - den.log2 + k).toNat) + den.log2 = num.log2 + k := by omega
    generalize ((num.log2 : Int) - den.log2 + k).toNat = j at hj ⊢
    constructor
    · refine Nat.le_of_mul_le_mul_right ?_ hpb
      calc den * 2 ^ j * 2 ^ den.log2 = den * 2 ^ num.log2 * 2 ^ k := by
            rw [Nat.mul_assoc, ← Nat.pow_add, hj, Nat.pow_add, Nat.mul_assoc]
        _ ≤ num * 2 ^ den.log2 * 2 ^ k := Nat.mul_le_mul_right _ h
        _ = num * 2 ^ k * 2 ^ den.log2 := by ring
    · refine Nat.lt_of_mul_lt_mul_right (?_ : _ * 2 ^ den.log2 < _ * 2 ^ den.log2)
      have hsize : num * 2 ^ den.log2 < 2 ^ (num.log2 + 1) * den :=
        calc num * 2 ^ den.log2 < 2 ^ (num.log2 + 1) * 2 ^ den.log2 :=
              Nat.mul_lt_mul_of_pos_right ha2 hpb
          _ ≤ 2 ^ (num.log2 + 1) * den := Nat.mul_le_mul_left _ hb1
      calc num * 2 ^ k * 2 ^ den.log2 = num * 2 ^ den.log2 * 2 ^ k := by ring
        _ < 2 ^ (num.log2 + 1) * den * 2 ^ k :=
          Nat.mul_lt_mul_of_pos_right hsize (Nat.two_pow_pos k)
        _ = 2 * den * 2 ^ j * 2 ^ den.log2 := by
          rw [Nat.mul_assoc (2 * den), ← Nat.pow_add, hj, Nat.pow_add, Nat.pow_succ]
          ring
  · -- `num / den` is below `2 ^ (a - b)`, so its exponent is one less
    rw [not_le] at h
    have hj : (((num.log2 : Int) - den.log2 - 1 + k).toNat) + den.log2 + 1 = num.log2 + k := by
      omega
    generalize ((num.log2 : Int) - den.log2 - 1 + k).toNat = j at hj ⊢
    constructor
    · refine Nat.le_of_mul_le_mul_right (?_ : _ * 2 ^ (den.log2 + 1) ≤ _ * 2 ^ (den.log2 + 1))
        (Nat.two_pow_pos _)
      have hsize : den * 2 ^ num.log2 ≤ 2 ^ (den.log2 + 1) * num :=
        calc den * 2 ^ num.log2 ≤ 2 ^ (den.log2 + 1) * 2 ^ num.log2 :=
              Nat.mul_le_mul_right _ hb2.le
          _ ≤ 2 ^ (den.log2 + 1) * num := Nat.mul_le_mul_left _ ha1
      calc den * 2 ^ j * 2 ^ (den.log2 + 1) = den * 2 ^ num.log2 * 2 ^ k := by
            rw [Nat.mul_assoc, ← Nat.pow_add, ← Nat.add_assoc, hj, Nat.pow_add, Nat.mul_assoc]
        _ ≤ 2 ^ (den.log2 + 1) * num * 2 ^ k := Nat.mul_le_mul_right _ hsize
        _ = num * 2 ^ k * 2 ^ (den.log2 + 1) := by ring
    · refine Nat.lt_of_mul_lt_mul_right (?_ : _ * 2 ^ den.log2 < _ * 2 ^ den.log2)
      calc num * 2 ^ k * 2 ^ den.log2 = num * 2 ^ den.log2 * 2 ^ k := by ring
        _ < den * 2 ^ num.log2 * 2 ^ k := Nat.mul_lt_mul_of_pos_right h (Nat.two_pow_pos k)
        _ = 2 * den * 2 ^ j * 2 ^ den.log2 := by
          rw [Nat.mul_assoc den, ← Nat.pow_add, ← hj]
          ring

/-! ## Subnormal doubles -/

/-- The bits of a subnormal double or a zero: a sign bit, a zero exponent field and a
fraction, read as the fraction times `2 ^ -1074`. -/
theorem unpack_subnormal {b : BitVec 64} {S F : Nat} (hF : F < 2 ^ 52)
    (hb : b.toNat = S * 2 ^ 63 + F) :
    UnpackedFloat.unpack Format.binary64 b =
      if h : F = 0 then .zero (signOfBit S) else .finite (signOfBit S) F (-1074) (by omega) := by
  have hexp : (@unpackExponent Format.binary64 b).toNat = 0 := by
    rw [toNat_unpackExponent, hb]
    omega
  have hmant : (@unpackMantissa Format.binary64 b).toNat = F := by
    rw [toNat_unpackMantissa, hb]
    omega
  have hsign : Sign.ofBitVec (@unpackSign Format.binary64 b) = signOfBit S :=
    ofBitVec_unpackSign (by rw [hb]; omega)
  unfold UnpackedFloat.unpack
  rw [if_neg (fun h => by have := congrArg BitVec.toNat h; rw [hexp] at this; simp at this),
    if_pos (BitVec.eq_of_toNat_eq (by rw [hexp]; rfl))]
  simp only [hsign]
  by_cases hF0 : F = 0
  · rw [dif_pos (BitVec.eq_of_toNat_eq (by rw [hmant, hF0]; rfl)), dif_pos hF0]
  · rw [dif_neg (fun h => hF0 (by have := congrArg BitVec.toNat h; rw [hmant] at this; simpa using this)),
      dif_neg hF0]
    have hbias : Format.binary64.exponentBias = 1023 := rfl
    simp only [hmant, hexp, hbias]
    rfl

/-- Packing a subnormal double or a zero gives back its bits. -/
theorem pack_subnormal {S F : Nat} (hS : S ≤ 1) (hF : F < 2 ^ 52) :
    (UnpackedFloat.pack Format.binary64
      (if h : F = 0 then .zero (signOfBit S) else .finite (signOfBit S) F (-1074) (by omega))).toNat =
      S * 2 ^ 63 + F := by
  by_cases hF0 : F = 0
  · rw [dif_pos hF0]
    subst hF0
    simp only [UnpackedFloat.pack, packedZero, packComponents, BitVec.toNat_append,
      toNat_signOfBit hS]
    simp [Nat.shiftLeft_eq]
    ring
  · rw [dif_neg hF0]
    have hlog : F.log2 < 52 := (Nat.log2_lt hF0).2 hF
    have hbias : Format.binary64.exponentBias = 1023 := rfl
    unfold UnpackedFloat.pack
    simp only [hbias]
    rw [if_neg (by simp), if_neg (show ¬ F.log2 + 1 = Format.binary64.mantissaBits by
      show ¬ F.log2 + 1 = 53
      omega)]
    simp only [packComponents, BitVec.toNat_append, toNat_signOfBit hS, BitVec.toNat_ofNat]
    -- the fields do not overlap, so the bitwise or is a sum
    rw [Nat.zero_mod, Nat.or_zero, Nat.mod_eq_of_lt hF, ← Nat.shiftLeft_add_eq_or_of_lt hF,
      Nat.shiftLeft_eq, Nat.shiftLeft_eq, Nat.mul_assoc, ← Nat.pow_add]

/-- A double made from the bits of a subnormal double or a zero has those bits. -/
theorem toBits_ofBits_subnormal {u : UInt64} {S F : Nat} (hS : S ≤ 1) (hF : F < 2 ^ 52)
    (hu : u.toNat = S * 2 ^ 63 + F) : (Float.ofBits u).toBits = u := by
  have hbits := @unpack_subnormal u.toBitVec S F hF (by rw [UInt64.toNat_toBitVec, hu])
  show UInt64.ofBitVec (UnpackedFloat.pack Float.Model.Format.binary64
    (UnpackedFloat.unpack Float.Model.Format.binary64 u.toBitVec)) = u
  rw [hbits]
  apply UInt64.toNat_inj.1
  rw [UInt64.toNat_ofBitVec, pack_subnormal hS hF, hu]

/-- A double made from the bits of a normal double has those bits. -/
theorem toBits_ofBits_normal {u : UInt64} {S E F : Nat} (hS : S ≤ 1) (hE1 : 1 ≤ E)
    (hE : E ≤ 2046) (hF : F < 2 ^ 52) (hu : u.toNat = S * 2 ^ 63 + E * 2 ^ 52 + F) :
    (Float.ofBits u).toBits = u := by
  have hbits := unpack_normal hS hE1 hE hF (by rw [UInt64.toNat_toBitVec, hu])
  show UInt64.ofBitVec (UnpackedFloat.pack Float.Model.Format.binary64
    (UnpackedFloat.unpack Float.Model.Format.binary64 u.toBitVec)) = u
  rw [hbits]
  apply UInt64.toNat_inj.1
  rw [UInt64.toNat_ofBitVec, pack_normal hS hE1 hE hF (by positivity), hu]

/-- The sign bit `encode` writes. -/
theorem encode_sign (neg : Bool) : (if neg = true then 2 ^ 63 else 0) = neg.toNat * 2 ^ 63 := by
  cases neg <;> rfl

/-- A normal double is read back as the significand and exponent it was written with. -/
theorem decode_encode_normal {neg : Bool} {m : Nat} {e : Int} (hm1 : 2 ^ 52 ≤ m) (hm2 : m < 2 ^ 53)
    (he1 : -1074 ≤ e) (he2 : e ≤ 971) :
    decode (encode neg (.finite m e)) = .signed neg (.finite m e) := by
  have hS := Bool.toNat_le neg
  have hbits : ((neg.toNat * 2 ^ 63 + (e + 1075).toNat * 2 ^ 52 + (m - 2 ^ 52)).toUInt64).toNat =
      neg.toNat * 2 ^ 63 + (e + 1075).toNat * 2 ^ 52 + (m - 2 ^ 52) := by
    rw [Nat.toUInt64_eq, UInt64.toNat_ofNat', Nat.mod_eq_of_lt (by omega)]
  unfold encode
  simp only [Nat.pow_eq]
  rw [if_neg (by omega), encode_sign]
  unfold decode
  rw [toBits_ofBits_normal hS (by omega) (by omega) (by omega) hbits, hbits]
  -- the fields read back: the sign bit, the biased exponent and the fraction
  have hneg : decide (neg.toNat * 2 ^ 63 + (e + 1075).toNat * 2 ^ 52 + (m - 2 ^ 52) ≥
      Nat.pow 2 63) = neg := by
    cases neg <;> simp <;> omega
  have hbiased : (neg.toNat * 2 ^ 63 + (e + 1075).toNat * 2 ^ 52 + (m - 2 ^ 52)) / Nat.pow 2 52 %
      Nat.pow 2 11 = (e + 1075).toNat := by
    simp only [Nat.pow_eq]
    omega
  have hfrac : (neg.toNat * 2 ^ 63 + (e + 1075).toNat * 2 ^ 52 + (m - 2 ^ 52)) % Nat.pow 2 52 =
      m - 2 ^ 52 := by
    simp only [Nat.pow_eq]
    omega
  simp only [hneg, hbiased, hfrac]
  rw [if_neg (by omega), if_neg (by omega)]
  simp only [Nat.pow_eq, Parts.signed.injEq, Magnitude.finite.injEq, true_and]
  omega

/-- A significand below `2 ^ 52` is written as a subnormal double (or a zero), whatever the
exponent, and read back with the least exponent. -/
theorem decode_encode_subnormal {neg : Bool} {m : Nat} {e : Int} (hm : m < 2 ^ 52) :
    decode (encode neg (.finite m e)) = .signed neg (.finite m (-1074)) := by
  have hS := Bool.toNat_le neg
  have hbits : ((neg.toNat * 2 ^ 63 + m).toUInt64).toNat = neg.toNat * 2 ^ 63 + m := by
    rw [Nat.toUInt64_eq, UInt64.toNat_ofNat', Nat.mod_eq_of_lt (by omega)]
  unfold encode
  simp only [Nat.pow_eq]
  rw [if_pos hm, encode_sign]
  unfold decode
  rw [toBits_ofBits_subnormal hS hm hbits, hbits]
  have hneg : decide (neg.toNat * 2 ^ 63 + m ≥ Nat.pow 2 63) = neg := by
    cases neg
    · simp only [Bool.toNat_false, Nat.zero_mul, Nat.zero_add, Nat.pow_eq]
      exact decide_eq_false (by omega)
    · simp
  have hbiased : (neg.toNat * 2 ^ 63 + m) / Nat.pow 2 52 % Nat.pow 2 11 = 0 := by
    simp only [Nat.pow_eq]
    omega
  have hfrac : (neg.toNat * 2 ^ 63 + m) % Nat.pow 2 52 = m := by
    simp only [Nat.pow_eq]
    omega
  simp only [hneg, hbiased, hfrac]
  rfl

/-! ## The whole part of a rounded ratio -/

/-- A positive ratio whose exponent is negative, `-k`, is rounded to a double by scaling it up
by `2 ^ k` and rounding to the nearest natural; a carry to `2 ^ 53` moves to the next exponent. -/
theorem round_double_of_scale {D M : Nat} (k : Nat) (hD0 : 0 < D) (hM : 0 < M) (hk : 0 < k)
    (he0 : max (floorLog2 D M - ((53 - 1 : Nat) : Int)) (-1074) = -(k : Int)) :
    Format.double.round D M =
      if divRoundEven (D * 2 ^ k) M = 2 ^ 53 then .finite (2 ^ 52) (-(k : Int) + 1)
      else .finite (divRoundEven (D * 2 ^ k) M) (-(k : Int)) := by
  have hscale : scaleDownPow2 D M (-(k : Int)) = (D * 2 ^ k, M) := by
    unfold scaleDownPow2
    rw [if_neg (by omega)]
    simp
  dsimp only [Format.round, Format.double, Nat.pow_eq]
  rw [if_neg (by simp; omega), he0, hscale]
  -- the exponent is at most `1`, far below the largest one, `971`
  split_ifs with h53 hbig hbig
  · omega
  · rfl
  · omega
  · rfl

/-- The whole part of `m * 2 ^ e`. -/
def wholeOf (m : Nat) (e : Int) : Nat :=
  if 0 ≤ e then m * Nat.pow 2 e.toNat else m / Nat.pow 2 (-e).toNat

/-- Halving the significand's scale: `m * 2 ^ (e + 1)` is `2 * m * 2 ^ e`. -/
theorem wholeOf_succ {m : Nat} {e : Int} (he : e < 0) :
    wholeOf m (e + 1) = 2 * m / 2 ^ (-e).toNat := by
  unfold wholeOf
  simp only [Nat.pow_eq]
  split_ifs with h
  · have he1 : e = -1 := by omega
    subst he1
    simp
  · have hk : (-e).toNat = (-(e + 1)).toNat + 1 := by omega
    rw [hk, Nat.pow_succ', Nat.mul_div_mul_left _ _ (by norm_num)]

/-- Scaled up by `2 ^ k` to the exponent of a normal double, a ratio below `2 ^ 52` has 53 bits
in its whole part, and its denominator is below `2 ^ k`. -/
theorem scaled_bounds_of_normal {D M k : Nat} (hD0 : 0 < D) (hD : D < 2 ^ 52) (hM : 0 < M)
    (hk : floorLog2 D M + k = 52) :
    M < 2 ^ k ∧ 2 ^ 52 ≤ D * 2 ^ k / M ∧ D * 2 ^ k / M < 2 ^ 53 := by
  have hspec := @floorLog2_spec D M hD0 hM k (by omega)
  rw [show (floorLog2 D M + k).toNat = 52 by omega] at hspec
  obtain ⟨hlo, hhi⟩ := hspec
  refine ⟨?_, (Nat.le_div_iff_mul_le hM).2 (by linarith), (Nat.div_lt_iff_lt_mul hM).2 (by linarith)⟩
  have hlt : M * 2 ^ 52 < 2 ^ k * 2 ^ 52 :=
    calc M * 2 ^ 52 ≤ D * 2 ^ k := hlo
      _ < 2 ^ 52 * 2 ^ k := Nat.mul_lt_mul_of_pos_right hD (Nat.two_pow_pos k)
      _ = 2 ^ k * 2 ^ 52 := Nat.mul_comm _ _
  exact Nat.lt_of_mul_lt_mul_right hlt

/-- A ratio below the least normal double, `2 ^ -1022`, is below `2 ^ 52` once scaled up to the
least exponent, by `2 ^ 1074`. -/
theorem scaled_lt_of_subnormal {D M : Nat} (hD0 : 0 < D) (hM : 0 < M)
    (hsub : floorLog2 D M - 52 < -1074) : D * 2 ^ 1074 < M * 2 ^ 52 := by
  -- with `j = -floorLog2 D M`, the spec says `D * 2 ^ j < 2 * M`, and `j` is above `1022`
  have hup := (@floorLog2_spec D M hD0 hM (-floorLog2 D M).toNat (by omega)).2
  rw [show (floorLog2 D M + ((-floorLog2 D M).toNat : Int)).toNat = 0 by omega, pow_zero,
    Nat.mul_one] at hup
  by_cases hk : (-floorLog2 D M).toNat ≤ 1074
  · calc D * 2 ^ 1074 = D * 2 ^ (-floorLog2 D M).toNat * 2 ^ (1074 - (-floorLog2 D M).toNat) := by
          rw [Nat.mul_assoc, ← Nat.pow_add, Nat.add_sub_cancel' hk]
      _ < 2 * M * 2 ^ (1074 - (-floorLog2 D M).toNat) :=
          Nat.mul_lt_mul_of_pos_right hup (Nat.two_pow_pos _)
      _ ≤ 2 * M * 2 ^ 51 := Nat.mul_le_mul_left _ (Nat.pow_le_pow_right (by norm_num) (by omega))
      _ = M * 2 ^ 52 := by ring
  · calc D * 2 ^ 1074 ≤ D * 2 ^ (-floorLog2 D M).toNat :=
          Nat.mul_le_mul_left _ (Nat.pow_le_pow_right (by norm_num) (by omega))
      _ < 2 * M := hup
      _ ≤ M * 2 ^ 52 := by rw [Nat.mul_comm]; exact Nat.mul_le_mul_left M (by norm_num)

/-- A ratio below `2 ^ 52` is rounded to a double whose whole part is the ratio's whole part,
and whose significand and exponent are those of a normal double or a subnormal one. -/
theorem round_double_whole {D M : Nat} (hD0 : 0 < D) (hD : D < 2 ^ 52) (hM : 0 < M) :
    ∃ m e, Format.double.round D M = .finite m e ∧
      ((2 ^ 52 ≤ m ∧ m < 2 ^ 53 ∧ -1074 ≤ e ∧ e ≤ 971) ∨ (m < 2 ^ 52 ∧ e = -1074)) ∧
      wholeOf m e = D / M := by
  have hL51 : floorLog2 D M ≤ 51 := by
    by_contra hgt
    have hlo := (@floorLog2_spec D M hD0 hM 0 (by omega)).1
    have : 2 ^ 52 ≤ 2 ^ (floorLog2 D M + 0).toNat := Nat.pow_le_pow_right (by norm_num) (by omega)
    nlinarith
  by_cases hcl : -1074 ≤ floorLog2 D M - 52
  · -- a normal result: the ratio is scaled up to 53 bits, by `2 ^ k`
    set k := (52 - floorLog2 D M).toNat with hk
    obtain ⟨hMk, hlo, hhi⟩ := @scaled_bounds_of_normal D M k hD0 hD hM (by omega)
    have hwhole := @divRoundEven_mul_pow_div D M k hM hMk
    have hcases := divRoundEven_cases (D * 2 ^ k) M
    rw [round_double_of_scale k hD0 hM (by omega) (by omega)]
    generalize divRoundEven (D * 2 ^ k) M = m at hwhole hcases
    split_ifs with h53
    · -- rounding up to `2 ^ 53` moves to the next exponent
      refine ⟨2 ^ 52, -(k : Int) + 1, rfl, .inl ⟨le_rfl, by norm_num, by omega, by omega⟩, ?_⟩
      rw [wholeOf_succ (by omega), ← hwhole, h53]
      simp
    · refine ⟨m, -(k : Int), rfl, .inl ⟨by omega, by omega, by omega, by omega⟩, ?_⟩
      rw [← hwhole]
      unfold wholeOf
      rw [if_neg (by omega)]
      simp
  · -- the least exponent: the ratio is below `2 ^ -1022`, and its whole part is zero
    have hsmall := scaled_lt_of_subnormal hD0 hM (by omega)
    have hhi : D * 2 ^ 1074 / M < 2 ^ 52 :=
      (Nat.div_lt_iff_lt_mul hM).2 (by rw [Nat.mul_comm (2 ^ 52) M]; exact hsmall)
    have hDM : D / M = 0 := by
      refine Nat.div_eq_of_lt (Nat.lt_of_not_le fun h => ?_)
      have hbig : M * 2 ^ 52 ≤ D * 2 ^ 1074 :=
        Nat.mul_le_mul h (Nat.pow_le_pow_right (by norm_num) (by norm_num))
      exact absurd (Nat.lt_of_le_of_lt hbig hsmall) (Nat.lt_irrefl _)
    have hcases := divRoundEven_cases (D * 2 ^ 1074) M
    rw [round_double_of_scale 1074 hD0 hM (by norm_num) (by omega)]
    generalize divRoundEven (D * 2 ^ 1074) M = m at hcases
    rw [if_neg (show ¬ m = 2 ^ 53 by omega)]
    refine ⟨m, -1074, rfl, ?_, ?_⟩
    · rcases Nat.lt_or_ge m (2 ^ 52) with h | h
      · exact .inr ⟨h, rfl⟩
      · exact .inl ⟨h, by omega, by norm_num, by norm_num⟩
    · rw [hDM]
      simp only [wholeOf, Nat.pow_eq]
      rw [if_neg (by norm_num)]
      have hm : m < 2 ^ 1074 := Nat.lt_of_le_of_lt (by omega : m ≤ 2 ^ 52)
        (Nat.pow_lt_pow_right (by norm_num) (by norm_num))
      exact Nat.div_eq_of_lt hm

/-- The double nearest to a ratio below `2 ^ 52` is read back as a finite significand and
exponent whose whole part is the ratio's. -/
theorem decode_ofRatio_whole (neg : Bool) {D M : Nat} (hD : D < 2 ^ 52) (hM : 0 < M) :
    ∃ m e, decode (ofRatio neg D M) = .signed neg (.finite m e) ∧ wholeOf m e = D / M := by
  rcases Nat.eq_zero_or_pos D with rfl | hD0
  · -- zero is the subnormal double with significand zero
    refine ⟨0, -1074, ?_, by rw [wholeOf, if_neg (by norm_num), Nat.zero_div, Nat.zero_div]⟩
    have hzero : Format.double.round 0 M = .finite 0 (-1074) := by simp [Format.round, Format.double]
    rw [ofRatio, hzero, decode_encode_subnormal (by norm_num)]
  · obtain ⟨m, e, hround, henc, hwhole⟩ := round_double_whole hD0 hD hM
    refine ⟨m, e, ?_, hwhole⟩
    rw [ofRatio, hround]
    rcases henc with ⟨h1, h2, h3, h4⟩ | ⟨h, rfl⟩
    · exact decode_encode_normal h1 h2 h3 h4
    · exact decode_encode_subnormal h

end Tabula.Binary
