import Mathlib
import SampledKmeans.Proofs.Number.Sign

/-!
# Calculating with zero

Adding zero to a number without a minus sign, subtracting zero from any number
and dividing zero by a count are exact.  The first two hold because a decoded
number is encoded as the number it came from (`pack_unpack`).

The third one needs that a count above zero does not become zero or a NaN.  A
count is scaled until its mantissa has more than the 52 bits that are encoded,
and then rounded; both leave a mantissa of at least `2 ^ 52`
(`exists_full_of_roundWithAccuracy`), and such a number is encoded as it is or,
when it is too large, as infinity (`unpack_pack_of_isFull`).
-/

namespace SampledKmeans.Number

open Float.Model (Format UnpackedFloat totalExponent)
open Float.Model.UnpackedFloat

/-! ## Sums and differences -/

theorem pack_unpack (x : Float.Model) : Float.Model.pack x.unpack = x := by
  rcases x with ⟨bits, hvalid⟩
  have h : UnpackedFloat.pack Format.binary64 (UnpackedFloat.unpack Format.binary64 bits.toBitVec) =
      bits.toBitVec := pack_unpack_of_valid hvalid
  simp only [Float.Model.pack, Float.Model.unpack, h]

theorem unpack_zero : (0.0 : Float).toModel.unpack = .zero .positive :=
  rfl

theorem zero_add_of_unsigned {x : Float} (h : Unsigned x.toModel.unpack) : 0.0 + x = x := by
  have hadd : UnpackedFloat.add Format.binary64 (.zero .positive) x.toModel.unpack =
      x.toModel.unpack := by
    revert h
    -- Only a zero with a minus sign is not what it was.
    rcases x.toModel.unpack with _ | _ | (_ | _) | _ <;> intro h <;> first | rfl | cases h
  change Float.ofModel (Float.Model.pack
    (UnpackedFloat.add Format.binary64 (0.0 : Float).toModel.unpack x.toModel.unpack)) = x
  rw [unpack_zero, hadd, pack_unpack]

theorem sub_zero (x : Float) : x - 0.0 = x := by
  have hsub : UnpackedFloat.sub Format.binary64 x.toModel.unpack (.zero .positive) =
      x.toModel.unpack := by
    rcases x.toModel.unpack with _ | _ | (_ | _) | _ <;> rfl
  change Float.ofModel (Float.Model.pack
    (UnpackedFloat.sub Format.binary64 x.toModel.unpack (0.0 : Float).toModel.unpack)) = x
  rw [unpack_zero, hsub, pack_unpack]

/-! ## Rounding keeps a mantissa full -/

/-- A mantissa with all the bits that a number encodes. -/
def IsFull (m : ℕ) : Prop :=
  2 ^ 52 ≤ m ∧ m < 2 ^ 53

theorem IsFull.pos {m : ℕ} (h : IsFull m) : 0 < m :=
  Nat.lt_of_lt_of_le (Nat.two_pow_pos 52) h.1

theorem isFull_div {m : ℕ} (hm : 2 ^ 52 ≤ m) : IsFull (m / 2 ^ (m.log2 - 52)) := by
  have hne : m ≠ 0 := by omega
  have hlog : 52 ≤ m.log2 := (Nat.le_log2 hne).mpr hm
  have hpow : 2 ^ m.log2 = 2 ^ 52 * 2 ^ (m.log2 - 52) := by
    rw [← pow_add, Nat.add_sub_cancel' hlog]
  constructor
  · rw [Nat.le_div_iff_mul_le (by positivity), ← hpow]
    exact Nat.log2_self_le hne
  · rw [Nat.div_lt_iff_lt_mul (by positivity)]
    calc m < 2 ^ (m.log2 + 1) := Nat.lt_log2_self
      _ = 2 ^ 53 * 2 ^ (m.log2 - 52) := by
        rw [pow_succ, hpow]
        ring

theorem mantissa_shiftRight (em : ExtendedMantissa) (n : ℕ) :
    (em >>> n).mantissa = em.mantissa / 2 ^ n := by
  change (n.repeat ExtendedMantissa.shiftRightOne em).mantissa = _
  induction n with
  | zero => simp [Nat.repeat]
  | succ n ih =>
      have hstep : (ExtendedMantissa.shiftRightOne
          (n.repeat ExtendedMantissa.shiftRightOne em)).mantissa =
            (n.repeat ExtendedMantissa.shiftRightOne em).mantissa / 2 := rfl
      rw [Nat.repeat, hstep, ih, Nat.div_div_eq_div_mul, pow_succ]

theorem mantissa_ofMantissaAndAccuracy (m : ℕ) (accuracy : Accuracy) :
    (ExtendedMantissa.ofMantissaAndAccuracy m accuracy).mantissa = m := by
  rcases accuracy with _ | (_ | _ | _) <;> rfl

theorem mantissa_le_roundedMantissa (em : ExtendedMantissa) :
    em.mantissa ≤ em.roundedMantissa := by
  rcases em with ⟨m, _ | _, _ | _⟩ <;>
    simp only [ExtendedMantissa.roundedMantissa, ExtendedMantissa.accuracy,
      Accuracy.roundToNearestEven] <;> omega

/-- The exponent that rounding aims at: that of a full mantissa, or the smallest one. -/
theorem targetExponent_eq (totalExponent : ℤ) :
    Format.binary64.targetExponent totalExponent = max (totalExponent - 53) (-1074) := by
  simp only [Format.targetExponent, Format.mantissaBits, Format.minExponent]
  omega

theorem exponent_shiftToTargetExponent (m : ℕ) (e : ℤ) (accuracy : Accuracy) :
    (shiftToTargetExponent Format.binary64 m e accuracy).2 =
      max e (max (m.log2 + e - 52) (-1074)) := by
  unfold shiftToTargetExponent shiftToExponent
  dsimp only
  rw [targetExponent_eq, totalExponent]
  omega

theorem mantissa_shiftToTargetExponent (m : ℕ) (e : ℤ) (accuracy : Accuracy) :
    (shiftToTargetExponent Format.binary64 m e accuracy).1.mantissa =
      m / 2 ^ (max (m.log2 + e - 52) (-1074) - e).toNat := by
  have htarget : Format.binary64.targetExponent (totalExponent m e) =
      max (m.log2 + e - 52) (-1074) := by
    rw [targetExponent_eq, totalExponent]
    omega
  unfold shiftToTargetExponent shiftToExponent
  dsimp only
  rw [htarget, mantissa_shiftRight, mantissa_ofMantissaAndAccuracy]

theorem mantissa_shiftToTargetExponent_lt (m : ℕ) (e : ℤ) (accuracy : Accuracy) :
    (shiftToTargetExponent Format.binary64 m e accuracy).1.mantissa < 2 ^ 53 := by
  rw [mantissa_shiftToTargetExponent]
  refine Nat.div_lt_of_lt_mul (Nat.lt_of_lt_of_le Nat.lt_log2_self ?_)
  rw [← pow_add]
  exact Nat.pow_le_pow_right Nat.two_pos (by omega)

theorem le_log2_of_full {m : ℕ} (hm : 2 ^ 52 ≤ m) : 52 ≤ m.log2 :=
  (Nat.le_log2 (by omega)).mpr hm

/-- Shifting cuts a mantissa down to the bits that are encoded, unless the
exponent is near the smallest one. -/
theorem isFull_shiftToTargetExponent {m : ℕ} {e : ℤ} (hm : 2 ^ 52 ≤ m) (he : -1000 ≤ e) :
    IsFull (shiftToTargetExponent Format.binary64 m e .exact).1.mantissa ∧
      (shiftToTargetExponent Format.binary64 m e .exact).2 = m.log2 + e - 52 := by
  have hlog := le_log2_of_full hm
  have hshift : (max (m.log2 + e - 52) (-1074) - e).toNat = m.log2 - 52 := by omega
  rw [mantissa_shiftToTargetExponent, exponent_shiftToTargetExponent, hshift]
  exact ⟨isFull_div hm, by omega⟩

theorem exists_full_of_roundWithAccuracy {m : ℕ} {e : ℤ} (hm : 2 ^ 52 ≤ m) (he : -1000 ≤ e) :
    ∃ m' e', ∃ hfull : IsFull m', roundWithAccuracy Format.binary64 .positive m e .exact =
      .finite .positive m' e' hfull.pos ∧ m.log2 + e - 52 ≤ e' := by
  have hlog := le_log2_of_full hm
  obtain ⟨hfull, hexponent⟩ := isFull_shiftToTargetExponent hm he
  set first := shiftToTargetExponent Format.binary64 m e .exact
  -- Rounding may have carried into one bit more, which the second shift takes away.
  have hrounded : 2 ^ 52 ≤ first.1.roundedMantissa :=
    hfull.1.trans (mantissa_le_roundedMantissa first.1)
  have hlog' := le_log2_of_full hrounded
  obtain ⟨hfull', hexponent'⟩ := isFull_shiftToTargetExponent (e := first.2) hrounded (by omega)
  have hle : m.log2 + e - 52 ≤
      (shiftToTargetExponent Format.binary64 first.1.roundedMantissa first.2 .exact).2 := by
    rw [hexponent', hexponent]
    omega
  exact ⟨_, _, hfull', dif_neg (Nat.ne_of_gt hfull'.pos), hle⟩

/-! ## Counts above zero -/

theorem unpack_pack_of_isFull {m : ℕ} {e : ℤ} (hfull : IsFull m) (he : -1000 ≤ e) :
    (Float.Model.pack (.finite .positive m e hfull.pos)).unpack = .infinity .positive ∨
      (Float.Model.pack (.finite .positive m e hfull.pos)).unpack =
        .finite .positive m e hfull.pos := by
  have hlog : m.log2 + 1 = Format.binary64.mantissaBits := by
    rw [(Nat.log2_eq_iff (Nat.ne_of_gt hfull.pos)).mpr hfull]
    rfl
  change UnpackedFloat.unpack _ (UnpackedFloat.pack _ _) = _ ∨
    UnpackedFloat.unpack _ (UnpackedFloat.pack _ _) = _
  set biased :=
    (e + Format.binary64.exponentBias + Format.binary64.mantissaBitsWithoutImplicit).toNat
    with hbiased
  by_cases hlarge : 2 ^ Format.binary64.exponentBits ≤ biased + 1
  · left
    simp only [UnpackedFloat.pack, ← hbiased, if_pos hlarge]
    simp [UnpackedFloat.unpack, packedInfinity]
  · right
    simp only [UnpackedFloat.pack, ← hbiased, if_neg hlarge, if_pos hlog]
    have hvalue : (biased : ℤ) = e + 1075 := by
      change ((e + 1023 + 52).toNat : ℤ) = _
      omega
    have hlt : biased + 1 < 2 ^ 11 := not_le.mp hlarge
    have htoNat : (BitVec.ofNat 11 biased).toNat = biased := by
      rw [BitVec.toNat_ofNat, Nat.mod_eq_of_lt (by omega)]
    have hones : BitVec.ofNat 11 biased ≠ -1#11 := by
      intro h
      have : biased = 2047 := htoNat ▸ congrArg BitVec.toNat h
      omega
    have hzero : BitVec.ofNat 11 biased ≠ 0#11 := by
      intro h
      have : biased = 0 := htoNat ▸ congrArg BitVec.toNat h
      omega
    -- The leading bit of the mantissa is not encoded.
    have hmantissa : (1#1 ++ BitVec.ofNat 52 m).toNat = m := by
      rw [BitVec.toNat_append, ← Nat.shiftLeft_add_eq_or_of_lt (BitVec.isLt _), BitVec.toNat_ofNat]
      change 1 <<< 52 + m % 2 ^ 52 = m
      unfold IsFull at hfull
      omega
    unfold UnpackedFloat.unpack
    simp only [unpackMantissa_packComponents, unpackExponent_packComponents,
      unpackSign_packComponents, Sign.ofBitVec_toBitVec]
    rw [if_neg hones, if_neg hzero, UnpackedFloat.finite.injEq, htoNat]
    refine ⟨rfl, hmantissa, ?_⟩
    change (biased : ℤ) - (1023 + 52) = e
    omega

/-- A decoded number above zero: infinity, or a full mantissa with an exponent
from `low` on. -/
def AboveZero (low : ℤ) : UnpackedFloat → Prop
  | .infinity sign => sign = .positive
  | .finite sign m e _ => sign = .positive ∧ 2 ^ 52 ≤ m ∧ low ≤ e
  | .zero _ | .notANumber => False

theorem AboveZero.mono {low low' : ℤ} {x : UnpackedFloat} (h : AboveZero low x)
    (hle : low' ≤ low) : AboveZero low' x := by
  cases x with
  | infinity sign => exact h
  | finite sign m e hm => exact ⟨h.1, h.2.1, hle.trans h.2.2⟩
  | zero sign => exact h
  | notANumber => exact h

theorem aboveZero_of_roundWithAccuracy {m : ℕ} {e low : ℤ} (hm : 2 ^ 52 ≤ m) (he : -1000 ≤ e)
    (hlow : low ≤ m.log2 + e - 52) :
    AboveZero low (Float.Model.pack
      (roundWithAccuracy Format.binary64 .positive m e .exact)).unpack := by
  have hlog := le_log2_of_full hm
  obtain ⟨m', e', hfull, hround, hle⟩ := exists_full_of_roundWithAccuracy hm he
  rw [hround]
  rcases unpack_pack_of_isFull (e := e') hfull (by omega) with h | h <;> rw [h]
  · rfl
  · exact ⟨rfl, hfull.1, hlow.trans hle⟩

theorem aboveZero_word {n : ℕ} (hpos : 0 < n) (hlt : n < 2 ^ 53) :
    AboveZero (n.log2 - 52) (Float.Model.ofNat n).unpack := by
  have hlog : n.log2 < 53 := (Nat.log2_lt (by omega)).mpr hlt
  have htarget : Format.binary64.targetExponent (totalExponent n 0) = (n.log2 : ℤ) - 52 := by
    rw [targetExponent_eq, totalExponent]
    omega
  have hround : UnpackedFloat.ofNat Format.binary64 n = roundWithAccuracy Format.binary64 .positive
      (n <<< (52 - n.log2)) ((n.log2 : ℤ) - 52) .exact := by
    have hcompare : compare (n : ℤ) 0 = .gt := compare_gt_iff_gt.mpr (by omega)
    have hshift : (0 - ((n.log2 : ℤ) - 52)).toNat = 52 - n.log2 := by omega
    have hexponent : (0 : ℤ) - (52 - n.log2 : ℕ) = n.log2 - 52 := by omega
    simp only [UnpackedFloat.ofNat, ofInt, UnpackedFloat.normalize, hcompare, UnpackedFloat.round,
      decreaseExponent, Int.toNat_natCast, htarget, hshift, hexponent]
  have hscaled : 2 ^ 52 ≤ n <<< (52 - n.log2) := by
    rw [Nat.shiftLeft_eq]
    calc 2 ^ 52 = 2 ^ n.log2 * 2 ^ (52 - n.log2) := by
          rw [← pow_add, Nat.add_sub_cancel' (by omega)]
      _ ≤ n * 2 ^ (52 - n.log2) := Nat.mul_le_mul_right _ (Nat.log2_self_le (by omega))
  have hlog' := le_log2_of_full hscaled
  rw [Float.Model.ofNat, hround]
  exact aboveZero_of_roundWithAccuracy hscaled (by omega) (by omega)

/-- A count above zero is a number above zero, on whichever of its two ways it
becomes a number, and rounding does not take from its leading bit. -/
theorem aboveZero_count {n : ℕ} (hpos : 0 < n) :
    AboveZero (n.log2 - 52) (Float.ofNat n).toModel.unpack := by
  change AboveZero (n.log2 - 52) (Float.ofScientific n false 0).toModel.unpack
  unfold Float.ofScientific
  split
  · rename_i h
    have hone : (Float.ofBits 0x3FF0000000000000).toModel.unpack =
      .finite .positive (2 ^ 52) (-52) (by decide) := rfl
    have hword : n.toUInt64.toNat = n := by
      rw [UInt64.toNat_ofNat', Nat.mod_eq_of_lt (by omega)]
    have hfirst := aboveZero_word hpos h.1
    change AboveZero (n.log2 - 52) (Float.Model.pack (UnpackedFloat.mul Format.binary64
      (Float.Model.ofNat n.toUInt64.toNat).unpack
      (Float.ofBits 0x3FF0000000000000).toModel.unpack)).unpack
    rw [hword, hone]
    generalize (Float.Model.ofNat n).unpack = x at hfirst
    cases x with
    | infinity sign =>
        cases hfirst
        rfl
    | finite sign m e hm =>
        obtain ⟨rfl, hm, he⟩ := hfirst
        have hlog : 104 ≤ (m * 2 ^ 52).log2 := (Nat.le_log2 (by omega)).mpr (by omega)
        exact aboveZero_of_roundWithAccuracy (by omega) (by omega) (by omega)
    | zero sign => cases hfirst
    | notANumber => cases hfirst
  · have hscientific : UnpackedFloat.ofScientific Format.binary64 n 0 =
        roundWithAccuracy Format.binary64 .positive (n <<< 53 * 1) (-53) .exact := by
      have hlog : ¬ (0 : ℤ) < -((2 ^ 11 : ℤ) + n.log2) := by omega
      unfold UnpackedFloat.ofScientific
      rw [dif_neg (by omega), if_neg (by decide), if_neg hlog, if_pos (le_refl 0)]
      rfl
    have hscaled : n.log2 + 53 ≤ (n <<< 53 * 1).log2 := by
      rw [Nat.mul_one, Nat.shiftLeft_eq, Nat.le_log2 (Nat.mul_pos hpos (by decide)).ne', pow_add]
      exact Nat.mul_le_mul_right _ (Nat.log2_self_le (by omega))
    change AboveZero (n.log2 - 52) (Float.Model.pack
      (UnpackedFloat.ofScientific Format.binary64 n 0)).unpack
    rw [hscientific]
    exact aboveZero_of_roundWithAccuracy (by omega) (by omega) (by omega)

theorem zero_div_count {n : ℕ} (hpos : 0 < n) : 0.0 / Float.ofNat n = 0.0 := by
  have habove := aboveZero_count hpos
  change Float.ofModel (Float.Model.pack (UnpackedFloat.div Format.binary64
    (0.0 : Float).toModel.unpack (Float.ofNat n).toModel.unpack)) = 0.0
  rw [unpack_zero]
  generalize (Float.ofNat n).toModel.unpack = x at habove
  cases x with
  | infinity sign =>
      cases habove
      rfl
  | finite sign m e hm =>
      obtain ⟨rfl, -, -⟩ := habove
      rfl
  | zero sign => cases habove
  | notANumber => cases habove

end SampledKmeans.Number
