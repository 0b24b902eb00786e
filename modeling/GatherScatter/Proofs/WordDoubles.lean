import Mathlib
import GatherScatter.Decimal.Binary64
/-! # Doubles of words -/

open Float.Model Float.Model.UnpackedFloat

namespace GatherScatter.Decimal

/-! ## Rounding a natural that fits -/

theorem log2_of_normal {M : Nat} (h1 : 2 ^ 52 ≤ M) (h2 : M < 2 ^ 53) : M.log2 = 52 := by
  have hM : M ≠ 0 := by omega
  have hle : 52 ≤ M.log2 := (Nat.le_log2 hM).mpr h1
  have hlt : M.log2 < 53 := (Nat.log2_lt hM).mpr h2
  omega

theorem normal_bounds {k : Nat} (h0 : 0 < k) (h53 : k < 2 ^ 53) :
    2 ^ 52 ≤ k * 2 ^ (52 - k.log2) ∧ k * 2 ^ (52 - k.log2) < 2 ^ 53 := by
  have hk : k ≠ 0 := by omega
  have hlog : k.log2 < 53 := (Nat.log2_lt hk).mpr h53
  have hlow : 2 ^ k.log2 ≤ k := (Nat.le_log2 hk).mp (Nat.le_refl _)
  have hhigh : k < 2 ^ (k.log2 + 1) := (Nat.log2_lt hk).mp (Nat.lt_succ_self _)
  constructor
  · calc 2 ^ 52 = 2 ^ k.log2 * 2 ^ (52 - k.log2) := by rw [← Nat.pow_add]; congr 1; omega
      _ ≤ k * 2 ^ (52 - k.log2) := Nat.mul_le_mul_right _ hlow
  · calc k * 2 ^ (52 - k.log2) < 2 ^ (k.log2 + 1) * 2 ^ (52 - k.log2) :=
          Nat.mul_lt_mul_of_pos_right hhigh (Nat.two_pow_pos _)
      _ = 2 ^ 53 := by rw [← Nat.pow_add]; congr 1; omega

theorem targetExponent_normal {M : Nat} {e : Int} (h1 : 2 ^ 52 ≤ M) (h2 : M < 2 ^ 53)
    (he : -1074 ≤ e) : Format.binary64.targetExponent (totalExponent M e) = e := by
  simp only [Format.targetExponent, totalExponent, log2_of_normal h1 h2, Format.mantissaBits,
    Format.minExponent]
  norm_num
  omega

theorem shiftToTargetExponent_normal {M : Nat} {e : Int} (h1 : 2 ^ 52 ≤ M) (h2 : M < 2 ^ 53)
    (he : -1074 ≤ e) :
    shiftToTargetExponent Format.binary64 M e .exact = (⟨M, false, false⟩, e) := by
  simp only [shiftToTargetExponent, shiftToExponent, targetExponent_normal h1 h2 he, Int.sub_self]
  exact Prod.ext rfl (by simp)

theorem roundWithAccuracy_normal {M : Nat} {e : Int} (h1 : 2 ^ 52 ≤ M) (h2 : M < 2 ^ 53)
    (he : -1074 ≤ e) :
    roundWithAccuracy Format.binary64 .positive M e .exact = .finite .positive M e (by omega) := by
  have hexact : (⟨M, false, false⟩ : ExtendedMantissa).roundedMantissa = M := rfl
  simp only [roundWithAccuracy, shiftToTargetExponent_normal h1 h2 he, hexact]
  rw [dif_neg (by omega)]

theorem round_of_lt {k : Nat} (h0 : 0 < k) (h53 : k < 2 ^ 53) :
    round Format.binary64 .positive k 0 =
      .finite .positive (k * 2 ^ (52 - k.log2)) (-((52 - k.log2 : Nat) : Int))
        (Nat.mul_pos h0 (Nat.two_pow_pos _)) := by
  have hlog : k.log2 < 53 := (Nat.log2_lt (by omega)).mpr h53
  obtain ⟨hM1, hM2⟩ := normal_bounds h0 h53
  have htarget : Format.binary64.targetExponent (totalExponent k 0) = k.log2 - 52 := by
    simp only [Format.targetExponent, totalExponent, Format.mantissaBits, Format.minExponent]
    norm_num
    omega
  have hshift : (0 - ((k.log2 : Int) - 52)).toNat = 52 - k.log2 := by omega
  simp only [UnpackedFloat.round, htarget, decreaseExponent, hshift, Nat.shiftLeft_eq]
  rw [show (0 : Int) - ((52 - k.log2 : Nat) : Int) = -((52 - k.log2 : Nat) : Int) by omega]
  exact roundWithAccuracy_normal hM1 hM2 (by omega)

theorem ofNat_of_pos {k : Nat} (h0 : 0 < k) :
    UnpackedFloat.ofNat Format.binary64 k = round Format.binary64 .positive k 0 := by
  have hgt : compare (k : Int) 0 = .gt := compare_gt_iff_gt.mpr (by omega)
  simp only [UnpackedFloat.ofNat, UnpackedFloat.ofInt, UnpackedFloat.normalize, hgt,
    Int.toNat_natCast]

/-! ## Packing and reading back -/

theorem toNat_pack_normal {M s : Nat} (h1 : 2 ^ 52 ≤ M) (h2 : M < 2 ^ 53) (hs : s ≤ 52)
    (hpos : 0 < M) :
    (UnpackedFloat.pack Format.binary64 (.finite .positive M (-(s : Int)) hpos)).toNat =
      (1075 - s) * 2 ^ 52 + (M - 2 ^ 52) := by
  have hbiased : (-(s : Int) + (Format.binary64.exponentBias : Int) +
      (Format.binary64.mantissaBitsWithoutImplicit : Int)).toNat = 1075 - s := by
    simp only [Format.exponentBias]
    norm_num
    omega
  have hfinite : ¬ 2 ^ 11 ≤ 1075 - s + 1 := by omega
  have hnormal : 52 + 1 = Format.binary64.mantissaBits := rfl
  simp only [UnpackedFloat.pack, log2_of_normal h1 h2, hbiased, if_neg hfinite, if_pos hnormal,
    packComponents, BitVec.toNat_append, BitVec.toNat_ofNat]
  -- Sign, exponent field and fraction sit side by side, so joining them adds them.
  have hsign : Sign.positive.toBitVec.toNat = 0 := rfl
  have hfield : (1075 - s) % 2 ^ 11 = 1075 - s := Nat.mod_eq_of_lt (by omega)
  have hfraction : M % 2 ^ 52 = M - 2 ^ 52 := by omega
  rw [hsign, Nat.zero_shiftLeft, Nat.zero_or, hfield, hfraction,
    ← Nat.shiftLeft_add_eq_or_of_lt (by omega), Nat.shiftLeft_eq]

theorem decodeBits_normal {M s : Nat} (h1 : 2 ^ 52 ≤ M) (h2 : M < 2 ^ 53) (hs : s ≤ 52) :
    decodeBits ((1075 - s) * 2 ^ 52 + (M - 2 ^ 52)) = .finite false M (-(s : Int)) := by
  unfold decodeBits
  simp only [Nat.pow_eq]
  -- Below the sign bit sit the exponent field `1075 - s` and the fraction `M - 2 ^ 52`.
  have hsign : ((1075 - s) * 2 ^ 52 + (M - 2 ^ 52)) / 2 ^ 63 % 2 = 0 := by omega
  have hfield : ((1075 - s) * 2 ^ 52 + (M - 2 ^ 52)) / 2 ^ 52 % 2 ^ 11 = 1075 - s := by omega
  have hfraction : ((1075 - s) * 2 ^ 52 + (M - 2 ^ 52)) % 2 ^ 52 = M - 2 ^ 52 := by omega
  have hexponent : Int.ofNat (1075 - s) - 1075 = -(s : Int) := by
    rw [Int.ofNat_eq_natCast]
    omega
  rw [hfield, hfraction, hsign, if_neg (by omega), if_neg (by omega), Nat.sub_add_cancel h1,
    hexponent]
  rfl

/-- Every 32-bit word converts to a double exactly: the double is the word's value times a power of
two, over that power. -/
theorem decode_toFloat (w : UInt32) :
    ∃ s : Nat, decode w.toFloat = .finite false (w.toNat * 2 ^ s) (-(s : Int)) := by
  rcases Nat.eq_zero_or_pos w.toNat with h0 | hpos
  · -- Zero becomes the positive zero, read as zero at the least exponent.
    refine ⟨1074, ?_⟩
    have hw : w = 0 := UInt32.toNat_inj.mp h0
    subst hw
    have hbits : (UInt32.toFloat 0).toBits.toNat = 0 := by decide
    rw [UInt32.toNat_zero, Nat.zero_mul, decode, hbits]
    exact decodeBits_zero
  · have hlt : w.toNat < 2 ^ 53 := Nat.lt_trans w.toNat_lt (by decide)
    have hlog : w.toNat.log2 < 53 := (Nat.log2_lt (by omega)).mpr hlt
    obtain ⟨hM1, hM2⟩ := normal_bounds hpos hlt
    have hbits : w.toFloat.toBits.toNat =
        (UnpackedFloat.pack Format.binary64 (UnpackedFloat.ofNat Format.binary64 w.toNat)).toNat :=
      rfl
    refine ⟨52 - w.toNat.log2, ?_⟩
    rw [decode, hbits, ofNat_of_pos hpos, round_of_lt hpos hlt,
      toNat_pack_normal hM1 hM2 (by omega), decodeBits_normal hM1 hM2 (by omega)]

end GatherScatter.Decimal
