import Mathlib
import SampledKmeans.Proofs.Number.Zero

/-!
# Sums and roots that are zero

Numbers without a minus sign add up to zero only if all of them are zero, and the
root of such a number is zero only if the number is (`add_eq_zero_iff`,
`sqrt_le_zero_iff`).  Rounding would be the only way to lose one: but a mantissa
above zero is never shifted out as long as its exponent is one of a number
(`shifted_bounds`), and the exponents of sums and roots are.

Products are another matter, since their exponents are not bounded in this way.
The square of a number may be zero although the number is not.
-/

namespace SampledKmeans.Number

open Float.Model (Format UnpackedFloat totalExponent)
open Float.Model.UnpackedFloat

/-! ## Rounding does not reach zero -/

/-- Shifting keeps one bit of a mantissa at least, and no more than are encoded. -/
theorem shifted_bounds {m : ℕ} {e : ℤ} (hm : 0 < m) (he : -1074 ≤ e) (accuracy : Accuracy) :
    0 < (shiftToTargetExponent Format.binary64 m e accuracy).1.mantissa ∧
      (shiftToTargetExponent Format.binary64 m e accuracy).1.mantissa < 2 ^ 53 ∧
      -1074 ≤ (shiftToTargetExponent Format.binary64 m e accuracy).2 := by
  rw [exponent_shiftToTargetExponent]
  refine ⟨?_, mantissa_shiftToTargetExponent_lt m e accuracy, by omega⟩
  rw [mantissa_shiftToTargetExponent]
  refine Nat.div_pos (Nat.le_trans ?_ (Nat.log2_self_le hm.ne')) (Nat.two_pow_pos _)
  exact Nat.pow_le_pow_right Nat.two_pos (by omega)

/-- A decoded number whose mantissa and exponent are those of an encoded one. -/
def Encodable : UnpackedFloat → Prop
  | .finite _ m e _ => m < 2 ^ 53 ∧ -1074 ≤ e
  | .notANumber | .infinity _ | .zero _ => True

/-- A decoded zero, of either sign. -/
def IsZero : UnpackedFloat → Prop
  | .zero _ => True
  | .notANumber | .infinity _ | .finite _ _ _ _ => False

theorem round_ne_zero {m : ℕ} {e : ℤ} (hm : 0 < m) (he : -1074 ≤ e) (accuracy : Accuracy) :
    Encodable (roundWithAccuracy Format.binary64 .positive m e accuracy) ∧
      ¬ IsZero (roundWithAccuracy Format.binary64 .positive m e accuracy) := by
  obtain ⟨hpos, -, hexponent⟩ := shifted_bounds hm he accuracy
  set first := shiftToTargetExponent Format.binary64 m e accuracy with hfirst
  have hrounded : 0 < first.1.roundedMantissa :=
    Nat.lt_of_lt_of_le hpos (mantissa_le_roundedMantissa first.1)
  obtain ⟨hpos', hlt, hexponent'⟩ := shifted_bounds hrounded hexponent .exact
  have heq : roundWithAccuracy Format.binary64 .positive m e accuracy =
      .finite .positive _ _ hpos' := dif_neg (Nat.ne_of_gt hpos')
  rw [heq]
  exact ⟨⟨hlt, hexponent'⟩, id⟩

/-! ## Encoding does not reach zero -/

theorem encodable_unpack (b : BitVec Format.binary64.numBits) :
    Encodable (UnpackedFloat.unpack Format.binary64 b) := by
  fun_cases UnpackedFloat.unpack
  case case4 mantissa exponent _ _ _ _ _ _ =>
    refine ⟨Nat.lt_trans mantissa.isLt (by decide), ?_⟩
    change -1074 ≤ (exponent.toNat : ℤ) - (1023 + 52) + 1
    omega
  case case5 mantissa exponent _ _ _ _ hzero =>
    have hpos : exponent.toNat ≠ 0 := fun h => hzero (BitVec.eq_of_toNat_eq h)
    refine ⟨(1#1 ++ mantissa).isLt, ?_⟩
    change -1074 ≤ (exponent.toNat : ℤ) - (1023 + 52)
    omega
  all_goals trivial

theorem not_isZero_unpack_pack_finite {m : ℕ} {e : ℤ} {hm : 0 < m} (hlt : m < 2 ^ 53)
    (he : -1074 ≤ e) : ¬ IsZero (Float.Model.pack (.finite .positive m e hm)).unpack := by
  change ¬ IsZero (UnpackedFloat.unpack _ (UnpackedFloat.pack _ _))
  set biased :=
    (e + Format.binary64.exponentBias + Format.binary64.mantissaBitsWithoutImplicit).toNat
    with hbiased
  by_cases hlarge : 2 ^ Format.binary64.exponentBits ≤ biased + 1
  · simp only [UnpackedFloat.pack, ← hbiased, if_pos hlarge]
    simp [UnpackedFloat.unpack, packedInfinity, IsZero]
  by_cases hfull : m.log2 + 1 = Format.binary64.mantissaBits
  · -- The exponent of a normal number is not encoded as that of zero.
    have hzero : BitVec.ofNat 11 biased ≠ 0#11 := by
      have hpos : 0 < biased := by
        change 0 < (e + 1023 + 52).toNat
        omega
      have hbound : biased + 1 < 2 ^ 11 := not_le.mp hlarge
      intro heq
      have : biased = 0 := by
        rw [← Nat.mod_eq_of_lt (show biased < 2 ^ 11 by omega), ← BitVec.toNat_ofNat, heq]
        rfl
      omega
    simp only [UnpackedFloat.pack, ← hbiased, if_neg hlarge, if_pos hfull]
    unfold UnpackedFloat.unpack
    simp only [unpackExponent_packComponents]
    rw [if_neg hzero]
    split_ifs <;> exact id
  · -- The mantissa of a subnormal number is encoded as it is.
    have hzero : BitVec.ofNat 52 m ≠ 0#52 := by
      have hbound : m < 2 ^ 52 := by
        have hlog : m.log2 < 53 := (Nat.log2_lt (Nat.ne_of_gt hm)).mpr hlt
        have hne : m.log2 + 1 ≠ 53 := hfull
        exact (Nat.log2_lt (Nat.ne_of_gt hm)).mp (by omega)
      intro heq
      have : m = 0 := by
        rw [← Nat.mod_eq_of_lt hbound, ← BitVec.toNat_ofNat, heq]
        rfl
      omega
    simp only [UnpackedFloat.pack, ← hbiased, if_neg hlarge, if_neg hfull]
    unfold UnpackedFloat.unpack
    simp only [unpackExponent_packComponents, unpackMantissa_packComponents]
    rw [dif_neg hzero]
    split_ifs <;> exact id

theorem isZero_of_unpack_pack {x : UnpackedFloat} (hx : Unsigned x) (hencodable : Encodable x)
    (h : IsZero (Float.Model.pack x).unpack) : IsZero x := by
  cases x with
  | zero sign => trivial
  | notANumber => cases h
  | infinity sign =>
      cases hx
      cases h
  | finite sign m e hm =>
      cases hx
      exact absurd h (not_isZero_unpack_pack_finite hencodable.1 hencodable.2)

theorem eq_zero_of_isZero {x : Float} (hx : Unsigned x.toModel.unpack)
    (h : IsZero x.toModel.unpack) : x = 0.0 := by
  have hpack := pack_unpack x.toModel
  generalize x.toModel.unpack = u at hx h hpack
  cases u with
  | zero sign =>
      cases hx
      exact congrArg Float.ofModel hpack.symm
  | notANumber => cases h
  | infinity sign => cases h
  | finite sign m e hm => cases h

theorem eq_zero_of_le {x : Float} (hx : Unsigned x.toModel.unpack) (h : x ≤ 0.0) : x = 0.0 := by
  obtain ⟨hnan, -, hrank⟩ := le_iff_rank_le.mp h
  refine eq_zero_of_isZero hx ?_
  rw [rank_zero, rank] at hrank
  have hnan' : x.toModel.unpack.isNaN = false := hnan
  generalize x.toModel.unpack = u at hx hrank hnan'
  cases u with
  | zero sign => trivial
  | notANumber => cases hnan'
  | infinity sign =>
      cases hx
      simp [unpackedRank, Prod.Lex.toLex_le_toLex] at hrank
  | finite sign m e hm =>
      cases hx
      simp [unpackedRank, Prod.Lex.toLex_le_toLex] at hrank

/-- If what is encoded has no minus sign, only a zero is encoded as one. -/
theorem isZero_of_pack_eq_zero {x : UnpackedFloat} (hx : Unsigned x) (hencodable : Encodable x)
    (h : Float.ofModel (Float.Model.pack x) = 0.0) : IsZero x := by
  have hmodel : Float.Model.pack x = (0.0 : Float).toModel := congrArg Float.toModel h
  refine isZero_of_unpack_pack hx hencodable ?_
  rw [hmodel, unpack_zero]
  trivial

/-! ## Sums -/

theorem unsigned_unpackedAdd {x y : UnpackedFloat} (hx : Unsigned x) (hy : Unsigned y) :
    Unsigned (UnpackedFloat.add Format.binary64 x y) := by
  fun_cases UnpackedFloat.add
  case case11 _ _ _ _ _ _ _ _ _ k _ _ k' _ _ sum =>
    cases hx
    cases hy
    have hsum : sum = (k : ℤ) + k' := rfl
    unfold UnpackedFloat.normalize
    split
    · rename_i h
      rw [compare_lt_iff_lt] at h
      omega
    · rfl
    · exact unsigned_roundWithAccuracy ..
  all_goals simp_all [Unsigned]

theorem unsigned_add {x y : Float} (hx : Unsigned x.toModel.unpack)
    (hy : Unsigned y.toModel.unpack) : Unsigned (x + y).toModel.unpack :=
  unsigned_unpack_pack (unsigned_unpackedAdd hx hy)

theorem normalize_ne_zero {m : ℤ} {e : ℤ} (hm : 0 < m) (he : -1074 ≤ e) :
    Encodable (UnpackedFloat.normalize Format.binary64 m e .positive) ∧
      ¬ IsZero (UnpackedFloat.normalize Format.binary64 m e .positive) := by
  have hcompare : compare m 0 = .gt := compare_gt_iff_gt.mpr hm
  have htarget : -1074 ≤ Format.binary64.targetExponent (totalExponent m.toNat e) :=
    le_max_right _ _
  simp only [UnpackedFloat.normalize, hcompare, UnpackedFloat.round, decreaseExponent]
  refine round_ne_zero ?_ (by omega) .exact
  rw [Nat.shiftLeft_eq]
  exact Nat.mul_pos (by omega) (Nat.two_pow_pos _)

theorem isZero_of_unpackedAdd {x y : UnpackedFloat} (hx : Unsigned x) (hy : Unsigned y)
    (hx' : Encodable x) (hy' : Encodable y) :
    Encodable (UnpackedFloat.add Format.binary64 x y) ∧
      (IsZero (UnpackedFloat.add Format.binary64 x y) → IsZero x ∧ IsZero y) := by
  fun_cases UnpackedFloat.add
  case case11 _ m e hm _ m' e' _ low k _ hk k' _ _ sum =>
    cases hx
    cases hy
    have hlow : low = min e e' := rfl
    have hsum : sum = (k : ℤ) + k' := rfl
    have hpos : 0 < k := by
      have hshift : m <<< (e - low).toNat = k := congrArg Prod.fst hk
      rw [← hshift, Nat.shiftLeft_eq]
      exact Nat.mul_pos hm (Nat.two_pow_pos _)
    obtain ⟨hencodable, hzero⟩ := normalize_ne_zero (m := sum) (e := low) (by omega)
      (hlow ▸ le_min hx'.2 hy'.2)
    exact ⟨hencodable, fun h => absurd h hzero⟩
  all_goals simp_all [Encodable, IsZero]

theorem add_eq_zero_iff {x y : Float} (hx : Unsigned x.toModel.unpack)
    (hy : Unsigned y.toModel.unpack) : x + y = 0.0 ↔ x = 0.0 ∧ y = 0.0 := by
  constructor
  · intro h
    obtain ⟨hencodable, hzero⟩ :=
      isZero_of_unpackedAdd hx hy (encodable_unpack _) (encodable_unpack _)
    obtain ⟨hx', hy'⟩ := hzero (isZero_of_pack_eq_zero (unsigned_unpackedAdd hx hy) hencodable h)
    exact ⟨eq_zero_of_isZero hx hx', eq_zero_of_isZero hy hy'⟩
  · rintro ⟨rfl, rfl⟩
    exact zero_add_of_unsigned hy

/-! ## Roots -/

theorem unsigned_unpackedSqrt {x : UnpackedFloat} (hx : Unsigned x) :
    Unsigned (UnpackedFloat.sqrt Format.binary64 x) := by
  fun_cases UnpackedFloat.sqrt
  case case6 => exact unsigned_roundWithAccuracy ..
  all_goals simp_all [Unsigned]

theorem sqrtCore_bounds {m : ℕ} {e : ℤ} (hm : 0 < m) (he : -1074 ≤ e) :
    0 < (sqrtCore Format.binary64 m e).1 ∧ -1074 ≤ (sqrtCore Format.binary64 m e).2.1 := by
  constructor
  · refine Nat.sqrt_pos.mpr ?_
    rw [Nat.shiftLeft_eq]
    exact Nat.mul_pos hm (Nat.two_pow_pos _)
  · have hhalf : -1074 ≤ e / 2 := by omega
    exact le_min hhalf (le_max_right _ _)

theorem isZero_of_unpackedSqrt {x : UnpackedFloat} (hx : Unsigned x) (hx' : Encodable x) :
    Encodable (UnpackedFloat.sqrt Format.binary64 x) ∧
      (IsZero (UnpackedFloat.sqrt Format.binary64 x) → IsZero x) := by
  fun_cases UnpackedFloat.sqrt
  case case6 m e hm root exponent accuracy hcore =>
    obtain ⟨hroot, hexponent⟩ := sqrtCore_bounds hm hx'.2
    rw [hcore] at hroot hexponent
    obtain ⟨hencodable, hzero⟩ := round_ne_zero hroot hexponent accuracy
    exact ⟨hencodable, fun h => absurd h hzero⟩
  all_goals simp_all [Encodable, IsZero]

theorem sqrt_zero : (0.0 : Float).sqrt = 0.0 :=
  rfl

theorem sqrt_le_zero_iff {x : Float} (hx : Unsigned x.toModel.unpack) :
    x.sqrt ≤ 0.0 ↔ x = 0.0 := by
  have hunsigned := unsigned_unpackedSqrt hx
  constructor
  · intro h
    obtain ⟨hencodable, hzero⟩ := isZero_of_unpackedSqrt hx (encodable_unpack _)
    have hsqrt : x.sqrt = 0.0 := eq_zero_of_le (unsigned_unpack_pack hunsigned) h
    exact eq_zero_of_isZero hx (hzero (isZero_of_pack_eq_zero hunsigned hencodable hsqrt))
  · rintro rfl
    rw [sqrt_zero]
    exact le_refl_of_not_isNaN isNaN_zero

/-! ## Squares and differences -/

theorem unsigned_mul_self (x : Float) : Unsigned (x * x).toModel.unpack := by
  refine unsigned_unpack_pack (x := UnpackedFloat.mul _ _ _) ?_
  rcases x.toModel.unpack with (_ | _) | _ | (_ | _) | ⟨_ | _, m, e, hm⟩
  all_goals first | rfl | trivial | exact unsigned_roundWithAccuracy ..

theorem unsigned_zero : Unsigned (0.0 : Float).toModel.unpack :=
  rfl

theorem sub_self_of_isFinite {x : Float} (h : x.isFinite = true) : x - x = 0.0 := by
  have hsub : UnpackedFloat.sub Format.binary64 x.toModel.unpack x.toModel.unpack =
      .zero .positive := by
    have hfinite : x.toModel.unpack.isFinite = true := h
    generalize x.toModel.unpack = u at hfinite
    rcases u with _ | _ | (_ | _) | ⟨sign, m, e, hm⟩
    · cases hfinite
    · cases hfinite
    · rfl
    · rfl
    · simp [UnpackedFloat.sub, UnpackedFloat.normalize]
  change Float.ofModel (Float.Model.pack
    (UnpackedFloat.sub Format.binary64 x.toModel.unpack x.toModel.unpack)) = 0.0
  rw [hsub]
  rfl

theorem zero_mul_zero : (0.0 : Float) * 0.0 = 0.0 :=
  rfl

/-- Without minus signs a sum of many numbers is zero only if each of them is. -/
theorem foldl_add_eq_zero_iff {α : Type} {f : α → Float}
    (hf : ∀ a, Unsigned (f a).toModel.unpack) {start : Float}
    (hstart : Unsigned start.toModel.unpack) (l : List α) :
    l.foldl (fun sum a => sum + f a) start = 0.0 ↔ start = 0.0 ∧ ∀ a ∈ l, f a = 0.0 := by
  induction l generalizing start with
  | nil => simp
  | cons a l ih =>
      rw [List.foldl_cons, ih (unsigned_add hstart (hf a)), add_eq_zero_iff hstart (hf a),
        List.forall_mem_cons, and_assoc]

theorem unsigned_foldl_add {α : Type} {f : α → Float}
    (hf : ∀ a, Unsigned (f a).toModel.unpack) {start : Float}
    (hstart : Unsigned start.toModel.unpack) (l : List α) :
    Unsigned (l.foldl (fun sum a => sum + f a) start).toModel.unpack := by
  induction l generalizing start with
  | nil => exact hstart
  | cons a l ih => exact ih (unsigned_add hstart (hf a))

end SampledKmeans.Number
