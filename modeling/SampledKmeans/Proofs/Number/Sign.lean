import Mathlib
import SampledKmeans.Proofs.Number.Order

/-!
# Numbers without a minus sign

A quotient of two counts has no minus sign, whatever was rounded on the way, so
it lies between zero and one once it is capped at one
(`zero_le_smaller_quotient`, `smaller_quotient_le_one`).  Whether the quotient
is exact plays no role, and the counts may be as large as they like: a quotient
of two counts beyond all numbers is a NaN, and a NaN gives way to the cap.
-/

namespace SampledKmeans.Number

open Float.Model (Format UnpackedFloat)
open Float.Model.UnpackedFloat

/-- A decoded number without a minus sign, or a NaN. -/
def Unsigned : UnpackedFloat → Prop
  | .notANumber => True
  | .infinity sign | .zero sign | .finite sign _ _ _ => sign = .positive

/-! ## Encoding keeps the sign -/

theorem unsigned_unpack {b : BitVec Format.binary64.numBits} (h : unpackSign b = 0#1) :
    Unsigned (unpack Format.binary64 b) := by
  have hsign : Sign.ofBitVec (unpackSign b) = .positive := by
    rw [h]
    rfl
  fun_cases UnpackedFloat.unpack
  case case2 => trivial
  all_goals exact hsign

theorem unsigned_unpack_pack {x : UnpackedFloat} (h : Unsigned x) :
    Unsigned (Float.Model.pack x).unpack := by
  refine unsigned_unpack ?_
  change unpackSign (UnpackedFloat.pack Format.binary64 x) = 0#1
  fun_cases UnpackedFloat.pack <;>
    simp_all [Unsigned, packedNaN, packedInfinity, packedZero, Sign.toBitVec]

/-! ## Operations that set no minus sign -/

theorem unsigned_roundWithAccuracy (m : ℕ) (e : ℤ) (accuracy : Accuracy) :
    Unsigned (roundWithAccuracy Format.binary64 .positive m e accuracy) := by
  unfold roundWithAccuracy
  dsimp only
  split <;> rfl

theorem unsigned_div {x y : UnpackedFloat} (hx : Unsigned x) (hy : Unsigned y) :
    Unsigned (UnpackedFloat.div Format.binary64 x y) := by
  fun_cases UnpackedFloat.div
  case case11 =>
    cases hx
    cases hy
    exact unsigned_roundWithAccuracy ..
  all_goals simp_all [Unsigned]
  all_goals rfl

theorem unsigned_mul {x y : UnpackedFloat} (hx : Unsigned x) (hy : Unsigned y) :
    Unsigned (UnpackedFloat.mul Format.binary64 x y) := by
  fun_cases UnpackedFloat.mul
  case case11 =>
    cases hx
    cases hy
    exact unsigned_roundWithAccuracy ..
  all_goals simp_all [Unsigned]
  all_goals rfl

theorem unsigned_ofNat (n : ℕ) : Unsigned (UnpackedFloat.ofNat Format.binary64 n) := by
  simp only [UnpackedFloat.ofNat, UnpackedFloat.ofInt, UnpackedFloat.normalize]
  split
  · rename_i h
    rw [compare_lt_iff_lt] at h
    omega
  · rfl
  · exact unsigned_roundWithAccuracy ..

theorem unsigned_ofScientific (m : ℕ) (e : ℤ) :
    Unsigned (UnpackedFloat.ofScientific Format.binary64 m e) := by
  unfold UnpackedFloat.ofScientific
  split_ifs
  · rfl
  · rfl
  · rfl
  · exact unsigned_mul rfl rfl
  · exact unsigned_div rfl rfl

/-- A count has no minus sign, on whichever of its two ways it becomes a
number. -/
theorem unsigned_count (n : ℕ) : Unsigned (Float.ofNat n).toModel.unpack := by
  change Unsigned (Float.ofScientific n false 0).toModel.unpack
  unfold Float.ofScientific
  have hone : Unsigned (Float.ofBits 0x3FF0000000000000).toModel.unpack :=
    unsigned_unpack rfl
  split
  · exact unsigned_unpack_pack (unsigned_mul (unsigned_unpack_pack (unsigned_ofNat _)) hone)
  · exact unsigned_unpack_pack (unsigned_ofScientific _ _)

/-! ## Fractions -/

theorem unsigned_quotient (m n : ℕ) :
    Unsigned (Float.ofNat m / Float.ofNat n).toModel.unpack :=
  unsigned_unpack_pack (unsigned_div (unsigned_count m) (unsigned_count n))

theorem zero_le_of_unsigned {x : Float} (hx : Unsigned x.toModel.unpack)
    (hnan : x.isNaN = false) : 0.0 ≤ x := by
  rw [le_iff_rank_le]
  refine ⟨isNaN_zero, hnan, ?_⟩
  rw [rank_zero, rank]
  cases h : x.toModel.unpack with
  | notANumber => exact le_rfl
  | infinity sign =>
      obtain rfl : sign = .positive := by rwa [h] at hx
      exact Prod.Lex.toLex_le_toLex.mpr (.inl zero_lt_two)
  | zero sign => exact le_rfl
  | finite sign m e hm =>
      obtain rfl : sign = .positive := by rwa [h] at hx
      exact Prod.Lex.toLex_le_toLex.mpr (.inl zero_lt_one)

theorem unsigned_smaller_quotient (m n : ℕ) :
    Unsigned (smaller (Float.ofNat m / Float.ofNat n) 1.0).toModel.unpack := by
  have hone : Unsigned (1.0 : Float).toModel.unpack := rfl
  unfold smaller
  split_ifs
  · exact hone
  · exact unsigned_quotient m n
  · exact hone
  · exact unsigned_quotient m n

theorem smaller_quotient_le_one (m n : ℕ) :
    smaller (Float.ofNat m / Float.ofNat n) 1.0 ≤ 1.0 :=
  smaller_le_right _ rfl

theorem zero_le_smaller_quotient (m n : ℕ) :
    0.0 ≤ smaller (Float.ofNat m / Float.ofNat n) 1.0 :=
  zero_le_of_unsigned (unsigned_smaller_quotient m n)
    (le_iff_rank_le.mp (smaller_quotient_le_one m n)).1

end SampledKmeans.Number
