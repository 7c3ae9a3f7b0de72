import Mathlib
import ScriptBridge.Number.Binary64

/-!
# Unsigned words as doubles

An unsigned word that is no signed one has 64 binary digits, and a double keeps 53 of them, so it is
rounded when it becomes a double. What matters about that double is that it is whole and not below
the words that were rounded: `Binary64.ofFloat_toFloat` says what its parts are.
-/

namespace ScriptBridge.Binary64

open Float.Model
open Float.Model.UnpackedFloat

/-! ## Rounding -/

theorem mantissa_shiftRight (extended : ExtendedMantissa) (shift : Nat) :
    (extended >>> shift).mantissa = extended.mantissa / 2 ^ shift := by
  induction shift with
  | zero => exact (Nat.div_one _).symm
  | succ shift ih =>
    have hstep : (extended >>> (shift + 1)).mantissa = (extended >>> shift).mantissa / 2 := rfl
    rw [hstep, ih, Nat.div_div_eq_div_mul, Nat.pow_succ]

/-- Rounding goes up by one, if at all. -/
theorem roundedMantissa_bounds (extended : ExtendedMantissa) :
    extended.mantissa ≤ extended.roundedMantissa ∧
      extended.roundedMantissa ≤ extended.mantissa + 1 := by
  obtain ⟨mantissa, roundBit, stickyBit⟩ := extended
  cases roundBit <;> cases stickyBit <;>
    simp only [ExtendedMantissa.roundedMantissa, ExtendedMantissa.accuracy,
      Accuracy.roundToNearestEven] <;>
    omega

/-- A significand of 53 digits stays as it is. -/
theorem shiftToTargetExponent_normal {m : Nat} {e : Int} (hm : 2 ^ 52 ≤ m) (hm' : m < 2 ^ 53)
    (he : -1074 ≤ e) :
    shiftToTargetExponent .binary64 m e .exact = (⟨m, false, false⟩, e) := by
  have hlog : m.log2 = 52 := (Nat.log2_eq_iff (by omega)).mpr ⟨hm, hm'⟩
  have htarget : Format.binary64.targetExponent (totalExponent m e) = e := by
    simp only [Format.targetExponent, totalExponent, hlog, Format.mantissaBits, Format.minExponent]
    omega
  simp only [shiftToTargetExponent, htarget, shiftToExponent, Int.sub_self]
  exact Prod.ext rfl (Int.add_zero e)

/-- A word with 64 digits is rounded to 53 of them. -/
theorem round_word {n : Nat} (hn : 2 ^ 63 ≤ n) (hn' : n < 2 ^ 64) :
    ∃ (m : Nat) (e : Int) (h : 0 < m),
      UnpackedFloat.round .binary64 .positive n 0 = .finite .positive m e h ∧
      2 ^ 52 ≤ m ∧ m < 2 ^ 53 ∧ 11 ≤ e ∧ e ≤ 12 := by
  have hlog : n.log2 = 63 := (Nat.log2_eq_iff (by omega)).mpr ⟨hn, hn'⟩
  have htarget : Format.binary64.targetExponent (totalExponent n 0) = 11 := by
    simp only [Format.targetExponent, totalExponent, hlog, Format.mantissaBits, Format.minExponent]
    omega
  have hdecrease : decreaseExponent n 0 11 = (n, 0) := rfl
  obtain ⟨extended, hextended⟩ : ∃ extended : ExtendedMantissa,
    extended = ExtendedMantissa.ofMantissaAndAccuracy n .exact >>> 11 := ⟨_, rfl⟩
  have hfirst : shiftToTargetExponent .binary64 n 0 .exact = (extended, 11) := by
    simp only [shiftToTargetExponent, htarget, hextended]
    rfl
  have hmantissa : extended.mantissa = n / 2 ^ 11 := by
    rw [hextended, mantissa_shiftRight]
    rfl
  obtain ⟨hle, hge⟩ := roundedMantissa_bounds extended
  by_cases hcarry : extended.roundedMantissa = 2 ^ 53
  -- the carry of the rounding takes one more digit
  · refine ⟨2 ^ 52, 12, by decide, ?_, by decide, by decide, by decide, by decide⟩
    simp only [UnpackedFloat.round, htarget, hdecrease, roundWithAccuracy, hfirst, hcarry]
    rfl
  · have hlow : 2 ^ 52 ≤ extended.roundedMantissa := by omega
    have hhigh : extended.roundedMantissa < 2 ^ 53 := by omega
    refine ⟨extended.roundedMantissa, 11, by omega, ?_, hlow, hhigh, by decide, by decide⟩
    simp only [UnpackedFloat.round, htarget, hdecrease, roundWithAccuracy, hfirst,
      shiftToTargetExponent_normal hlow hhigh (show (-1074 : Int) ≤ 11 by decide)]
    rw [dif_neg (by omega)]

/-! ## Bits -/

/-- The bits of a positive normal double. -/
theorem toNat_pack_normal {m : Nat} {e : Int} (h : 0 < m) (hm : 2 ^ 52 ≤ m) (hm' : m < 2 ^ 53)
    (he : -1074 ≤ e) (he' : e ≤ 971) :
    (UnpackedFloat.pack .binary64 (.finite .positive m e h)).toNat =
      (e + 1075).toNat * 2 ^ 52 + (m - 2 ^ 52) := by
  have hlog : m.log2 + 1 = Format.binary64.mantissaBits := by
    rw [(Nat.log2_eq_iff (by omega)).mpr ⟨hm, hm'⟩]
    rfl
  have hbias : (e + Format.binary64.exponentBias + Format.binary64.mantissaBitsWithoutImplicit) =
      e + 1075 := by
    change e + 1023 + 52 = e + 1075
    omega
  have hfits : ¬ 2 ^ Format.binary64.exponentBits ≤ (e + 1075).toNat + 1 := by
    change ¬ 2 ^ 11 ≤ _
    omega
  have hsign : Sign.positive.toBitVec.toNat <<< 11 = 0 := rfl
  have hor (a b : Nat) (hb : b < 2 ^ 52) : a <<< 52 ||| b = a * 2 ^ 52 + b := by
    rw [← Nat.shiftLeft_add_eq_or_of_lt hb, Nat.shiftLeft_eq]
  simp only [UnpackedFloat.pack, hbias, if_neg hfits, if_pos hlog, packComponents,
    BitVec.toNat_append, BitVec.toNat_ofNat, hsign, Nat.zero_or,
    hor _ _ (Nat.mod_lt m (Nat.two_pow_pos 52))]
  omega

theorem twoTo_eq (n : Nat) : twoTo n = 2 ^ n := rfl

theorem ofBits_normal {m : Nat} {e : Int} {bits : UInt64} (hm : 2 ^ 52 ≤ m) (hm' : m < 2 ^ 53)
    (he : -1074 < e) (he' : e ≤ 971)
    (hbits : bits.toNat = (e + 1075).toNat * 2 ^ 52 + (m - 2 ^ 52)) :
    ofBits bits = .finite false m e := by
  have hsign : (bits.toNat / 2 ^ 63 == 1) = false := by
    rw [beq_eq_false_iff_ne]
    omega
  have hbiased : bits.toNat / 2 ^ 52 % 2 ^ 11 = (e + 1075).toNat := by omega
  have hfraction : bits.toNat % 2 ^ 52 = m - 2 ^ 52 := by omega
  have hsignificand : 2 ^ 52 + (m - 2 ^ 52) = m := by omega
  have hexponent : ((e + 1075).toNat : Int) - 1075 = e := by omega
  simp only [ofBits, twoTo_eq, hsign, hbiased, hfraction, hsignificand, hexponent]
  rw [if_neg (by omega), if_neg (by omega)]

/-! ## Words beyond the signed ones -/

/-- **The double of a word beyond the signed ones** has 53 digits and is not below 2 ^ 63. -/
theorem ofFloat_toFloat {word : UInt64} (hword : 2 ^ 63 ≤ word.toNat) :
    ∃ (m : Nat) (e : Int), ofFloat word.toFloat = .finite false m e ∧ 2 ^ 52 ≤ m ∧ 11 ≤ e := by
  obtain ⟨m, e, hpos, hround, hm, hm', he, he'⟩ := round_word hword word.toNat_lt
  have hmodel : UnpackedFloat.ofNat .binary64 word.toNat = .finite .positive m e hpos := by
    have hcompare : compare (word.toNat : Int) 0 = .gt := by
      rw [Int.compare_eq_gt]
      omega
    simp only [UnpackedFloat.ofNat, UnpackedFloat.ofInt, UnpackedFloat.normalize, hcompare,
      Int.toNat_natCast, hround]
  refine ⟨m, e, ofBits_normal hm hm' (by omega) (by omega) ?_, hm, he⟩
  rw [← toNat_pack_normal hpos hm hm' (by omega) (by omega), ← hmodel]
  rfl

end ScriptBridge.Binary64
