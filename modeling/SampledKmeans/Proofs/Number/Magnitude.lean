import Mathlib
import SampledKmeans.Proofs.Number.Finite

/-!
# Numbers up to their sign

The differences `x - y` and `y - x` are rounded from decoded numbers that differ in their
sign alone (`abs_unpackedSub_comm`).  Rounding and encoding treat both signs alike, so
that the two have the same square (`mul_self_sub_comm`).

Whether a sum is a number depends on the signs, too: infinities of different signs have
none.  Without minus signs this cannot happen, and a sum of squares is a number when what
is squared are numbers (`isNaN_foldl_add`); so is its root.
-/

namespace SampledKmeans.Number

open Float.Model (Format UnpackedFloat)
open Float.Model.UnpackedFloat

/-! ## Rounding and encoding treat both signs alike -/

theorem abs_roundWithAccuracy (sign : Sign) (m : ℕ) (e : ℤ) (accuracy : Accuracy) :
    (roundWithAccuracy Format.binary64 sign m e accuracy).abs =
      roundWithAccuracy Format.binary64 .positive m e accuracy := by
  unfold roundWithAccuracy
  dsimp only
  split <;> rfl

theorem abs_normalize_neg (k e : ℤ) (zeroSign : Sign) :
    (UnpackedFloat.normalize Format.binary64 (-k) e zeroSign).abs =
      (UnpackedFloat.normalize Format.binary64 k e zeroSign).abs := by
  unfold UnpackedFloat.normalize UnpackedFloat.round
  rcases lt_trichotomy k 0 with h | rfl | h
  · rw [compare_lt_iff_lt.mpr h, compare_gt_iff_gt.mpr (Int.neg_pos_of_neg h)]
    simp only [abs_roundWithAccuracy]
  · rfl
  · rw [compare_gt_iff_gt.mpr h, compare_lt_iff_lt.mpr (Int.neg_neg_of_pos h), neg_neg]
    simp only [abs_roundWithAccuracy]

theorem abs_unpackedSub_comm (x y : UnpackedFloat) :
    (UnpackedFloat.sub Format.binary64 x y).abs =
      (UnpackedFloat.sub Format.binary64 y x).abs := by
  -- Only two finite numbers have a difference that is rounded.
  rcases x with (_ | _) | _ | (_ | _) | ⟨s, m, e, hm⟩ <;>
    rcases y with (_ | _) | _ | (_ | _) | ⟨s', m', e', hm'⟩ <;> try rfl
  simp only [UnpackedFloat.sub, decreaseExponent]
  rw [← abs_normalize_neg, neg_sub, min_comm]

/-- The sign is encoded apart from the rest. -/
theorem abs_unpack_congr {b b' : BitVec Format.binary64.numBits}
    (hexponent : unpackExponent b = unpackExponent b')
    (hmantissa : unpackMantissa b = unpackMantissa b') :
    (unpack Format.binary64 b).abs = (unpack Format.binary64 b').abs := by
  unfold UnpackedFloat.unpack
  simp only [hexponent, hmantissa]
  split_ifs <;> rfl

theorem abs_unpack_pack (x : UnpackedFloat) :
    (Float.Model.pack x).unpack.abs = (Float.Model.pack x.abs).unpack.abs := by
  cases x with
  | infinity sign => cases sign <;> rfl
  | notANumber => rfl
  | zero sign => cases sign <;> rfl
  | finite sign m e hm =>
      refine abs_unpack_congr ?_ ?_ <;>
        simp only [Float.Model.pack, UInt64.toBitVec_ofBitVec, UnpackedFloat.abs,
          UnpackedFloat.pack, packedInfinity] <;>
        split_ifs <;> simp

/-! ## Squares -/

theorem unpackedMul_self (x : UnpackedFloat) :
    UnpackedFloat.mul Format.binary64 x x = UnpackedFloat.mul Format.binary64 x.abs x.abs := by
  rcases x with (_ | _) | _ | (_ | _) | ⟨_ | _, m, e, hm⟩ <;> rfl

theorem mul_self_eq_of_abs {x y : Float}
    (h : x.toModel.unpack.abs = y.toModel.unpack.abs) : x * x = y * y := by
  change Float.ofModel (Float.Model.pack
      (UnpackedFloat.mul Format.binary64 x.toModel.unpack x.toModel.unpack)) =
    Float.ofModel (Float.Model.pack
      (UnpackedFloat.mul Format.binary64 y.toModel.unpack y.toModel.unpack))
  rw [unpackedMul_self, h, ← unpackedMul_self]

/-- A difference has the same square as the opposite one. -/
theorem mul_self_sub_comm (x y : Float) : (x - y) * (x - y) = (y - x) * (y - x) := by
  refine mul_self_eq_of_abs ?_
  change (Float.Model.pack (UnpackedFloat.sub _ _ _)).unpack.abs =
    (Float.Model.pack (UnpackedFloat.sub _ _ _)).unpack.abs
  rw [abs_unpack_pack, abs_unpackedSub_comm, ← abs_unpack_pack]

/-! ## Sums -/

theorem unpackedAdd_comm (x y : UnpackedFloat) :
    UnpackedFloat.add Format.binary64 x y = UnpackedFloat.add Format.binary64 y x := by
  rcases x with (_ | _) | _ | (_ | _) | ⟨s, m, e, hm⟩ <;>
    rcases y with (_ | _) | _ | (_ | _) | ⟨s', m', e', hm'⟩ <;> try rfl
  simp only [UnpackedFloat.add, decreaseExponent]
  rw [Int.add_comm, min_comm]

theorem add_comm (x y : Float) : x + y = y + x :=
  congrArg (fun sum => Float.ofModel (Float.Model.pack sum)) (unpackedAdd_comm _ _)

theorem add_zero_of_unsigned {x : Float} (h : Unsigned x.toModel.unpack) : x + 0.0 = x :=
  (add_comm x 0.0).trans (zero_add_of_unsigned h)

/-! ## Where a number is left -/

theorem isNaN_of_unpackedIsFinite {x : UnpackedFloat} (h : x.isFinite = true) :
    x.isNaN = false := by
  cases x <;> first | rfl | cases h

theorem isNaN_of_isFinite {x : Float} (h : x.isFinite = true) : x.isNaN = false :=
  isNaN_of_unpackedIsFinite h

theorem isNaN_unpack_pack {x : UnpackedFloat} (h : x.isNaN = false) :
    (Float.Model.pack x).unpack.isNaN = false := by
  cases x with
  | infinity sign => cases sign <;> rfl
  | notANumber => cases h
  | zero sign => cases sign <;> rfl
  | finite sign m e hm =>
      by_cases he : e ≤ 971
      · exact isNaN_of_unpackedIsFinite ((isFinite_unpack_pack_finite hm).mpr he)
      · -- A number that is too large becomes infinity.
        have hlarge : 2 ^ Format.binary64.exponentBits ≤
            (e + Format.binary64.exponentBias +
              Format.binary64.mantissaBitsWithoutImplicit).toNat + 1 := by
          change 2 ^ 11 ≤ (e + 1023 + 52).toNat + 1
          omega
        have hpack : Float.Model.pack (.finite sign m e hm) =
            Float.Model.pack (.infinity sign) := by
          simp only [Float.Model.pack, UnpackedFloat.pack, if_pos hlarge]
        rw [hpack]
        cases sign <;> rfl

theorem isNaN_roundWithAccuracy (sign : Sign) (m : ℕ) (e : ℤ) (accuracy : Accuracy) :
    (roundWithAccuracy Format.binary64 sign m e accuracy).isNaN = false := by
  unfold roundWithAccuracy
  dsimp only
  split <;> rfl

theorem isNaN_normalize (k e : ℤ) (zeroSign : Sign) :
    (UnpackedFloat.normalize Format.binary64 k e zeroSign).isNaN = false := by
  unfold UnpackedFloat.normalize
  split
  · exact isNaN_roundWithAccuracy ..
  · rfl
  · exact isNaN_roundWithAccuracy ..

/-- Finite numbers have a difference, though it may be infinite. -/
theorem isNaN_sub {x y : Float} (hx : x.isFinite = true) (hy : y.isFinite = true) :
    (x - y).isNaN = false := by
  refine isNaN_unpack_pack (x := UnpackedFloat.sub _ _ _) ?_
  have hx' : x.toModel.unpack.isFinite = true := hx
  have hy' : y.toModel.unpack.isFinite = true := hy
  generalize x.toModel.unpack = u at hx'
  generalize y.toModel.unpack = v at hy'
  fun_cases UnpackedFloat.sub
  case case11 => exact isNaN_normalize ..
  all_goals simp_all [UnpackedFloat.isFinite, UnpackedFloat.isNaN]

theorem isNaN_mul_self {x : Float} (h : x.isNaN = false) : (x * x).isNaN = false := by
  refine isNaN_unpack_pack (x := UnpackedFloat.mul _ _ _) ?_
  have h' : x.toModel.unpack.isNaN = false := h
  generalize x.toModel.unpack = u at h'
  cases u with
  | infinity sign => rfl
  | notANumber => cases h'
  | zero sign => rfl
  | finite sign m e hm => exact isNaN_roundWithAccuracy ..

theorem isNaN_add {x y : Float} (hx : Unsigned x.toModel.unpack)
    (hy : Unsigned y.toModel.unpack) (hx' : x.isNaN = false) (hy' : y.isNaN = false) :
    (x + y).isNaN = false := by
  refine isNaN_unpack_pack (x := UnpackedFloat.add _ _ _) ?_
  have hnan : x.toModel.unpack.isNaN = false := hx'
  have hnan' : y.toModel.unpack.isNaN = false := hy'
  generalize x.toModel.unpack = u at hx hnan
  generalize y.toModel.unpack = v at hy hnan'
  fun_cases UnpackedFloat.add
  case case11 => exact isNaN_normalize ..
  all_goals simp_all [Unsigned, UnpackedFloat.isNaN]

theorem isNaN_sqrt {x : Float} (hx : Unsigned x.toModel.unpack) (hx' : x.isNaN = false) :
    x.sqrt.isNaN = false := by
  refine isNaN_unpack_pack (x := UnpackedFloat.sqrt _ _) ?_
  have hnan : x.toModel.unpack.isNaN = false := hx'
  generalize x.toModel.unpack = u at hx hnan
  fun_cases UnpackedFloat.sqrt
  case case6 => exact isNaN_roundWithAccuracy ..
  all_goals simp_all [Unsigned, UnpackedFloat.isNaN]

/-- Without minus signs a sum of many numbers is a number. -/
theorem isNaN_foldl_add {α : Type} {f : α → Float} {l : List α}
    (hf : ∀ a, Unsigned (f a).toModel.unpack) (hl : ∀ a ∈ l, (f a).isNaN = false)
    {start : Float} (hstart : Unsigned start.toModel.unpack) (hstart' : start.isNaN = false) :
    (l.foldl (fun sum a => sum + f a) start).isNaN = false := by
  induction l generalizing start with
  | nil => exact hstart'
  | cons a l ih =>
      obtain ⟨ha, hrest⟩ := List.forall_mem_cons.mp hl
      exact ih hrest (unsigned_add hstart (hf a)) (isNaN_add hstart (hf a) hstart' ha)

end SampledKmeans.Number
