import Mathlib
import SampledKmeans.Proofs.Number.Vanishing

/-!
# Finite numbers

A number is finite as long as its exponent is not greater than `971`, the exponent
of the largest number (`isFinite_iff`).  Rounding goes beyond it only from halfway
between the largest number and the next power of two on, which are `2 ^ 54 - 1`
halves of the last place (`inRange_round`).

* **Sums.**  Numbers below `2 ^ 970` are too small to reach that far, whichever
  number they are added to.  A sum of any length of them is finite
  (`isFinite_sum`).  The bound is sharp: the largest number and `2 ^ 970` add up
  to infinity.
* **Quotients.**  A number divided by a count is finite exactly when the number is
  (`isFinite_div_count`).
-/

namespace SampledKmeans.Number

open Float.Model (Format UnpackedFloat totalExponent)
open Float.Model.UnpackedFloat

/-! ## Encoding -/

/-- A decoded number whose exponent is not above that of the largest number. -/
def InRange : UnpackedFloat → Prop
  | .finite _ _ e _ => e ≤ 971
  | .zero _ => True
  | .infinity _ | .notANumber => False

theorem isFinite_unpack_pack_finite {sign : Sign} {m : ℕ} {e : ℤ} (hm : 0 < m) :
    (Float.Model.pack (.finite sign m e hm)).unpack.isFinite = true ↔ e ≤ 971 := by
  change (UnpackedFloat.unpack _ (UnpackedFloat.pack _ _)).isFinite = true ↔ _
  set biased :=
    (e + Format.binary64.exponentBias + Format.binary64.mantissaBitsWithoutImplicit).toNat
    with hbiased
  have hvalue : biased = (e + 1075).toNat := by
    change (e + 1023 + 52).toNat = _
    omega
  by_cases hlarge : 2 ^ Format.binary64.exponentBits ≤ biased + 1
  · have hle : ¬ e ≤ 971 := by
      have : 2 ^ 11 ≤ biased + 1 := hlarge
      omega
    simp only [UnpackedFloat.pack, ← hbiased, if_pos hlarge]
    simp [UnpackedFloat.unpack, packedInfinity, UnpackedFloat.isFinite, hle]
  · have hlt : biased + 1 < 2 ^ 11 := not_le.mp hlarge
    have hones : BitVec.ofNat 11 biased ≠ -1#11 := by
      intro h
      have : biased = 2047 := by
        rw [← Nat.mod_eq_of_lt (show biased < 2 ^ 11 by omega), ← BitVec.toNat_ofNat, h]
        rfl
      omega
    have hle : e ≤ 971 := by omega
    simp only [UnpackedFloat.pack, ← hbiased, if_neg hlarge, hle, iff_true]
    unfold UnpackedFloat.unpack
    by_cases hfull : m.log2 + 1 = Format.binary64.mantissaBits
    · simp only [if_pos hfull, unpackExponent_packComponents]
      rw [if_neg hones]
      split_ifs <;> rfl
    · have hzero : (0#11 : BitVec 11) ≠ -1#11 := by decide
      simp only [if_neg hfull, unpackExponent_packComponents]
      rw [if_neg hzero]
      split_ifs <;> rfl

theorem isFinite_unpack_pack {x : UnpackedFloat} :
    (Float.Model.pack x).unpack.isFinite = true ↔ InRange x := by
  cases x with
  | finite sign m e hm => exact isFinite_unpack_pack_finite hm
  | zero sign => cases sign <;> exact iff_of_true rfl trivial
  | infinity sign => cases sign <;> exact iff_of_false Bool.false_ne_true id
  | notANumber => exact iff_of_false Bool.false_ne_true id

theorem isFinite_iff {x : Float} : x.isFinite = true ↔ InRange x.toModel.unpack := by
  have h := isFinite_unpack_pack (x := x.toModel.unpack)
  rw [pack_unpack] at h
  exact h

/-- What compares equal to zero is finite. -/
theorem isFinite_of_beq_zero {x : Float} (h : (x == 0.0) = true) : x.isFinite = true := by
  have hcompare : x.toModel.unpack.compare (.zero .positive) = some .eq := eq_of_beq h
  change x.toModel.unpack.isFinite = true
  generalize x.toModel.unpack = u at hcompare
  rcases u with (_ | _) | _ | _ | _
  · cases hcompare
  · cases hcompare
  · cases hcompare
  · rfl
  · rfl

/-! ## Infinity -/

theorem eq_infiniteDistance_of_not_lt {x : Float} (hx : x.isNaN = false)
    (h : ¬ x < infiniteDistance) : x = infiniteDistance := by
  have hrank := (le_iff_rank_le.mp (le_of_not_lt isNaN_infiniteDistance hx h)).2.2
  have hpack := pack_unpack x.toModel
  rw [rank_infiniteDistance, rank] at hrank
  -- Infinity alone has the class of infinity.
  generalize x.toModel.unpack = u at hrank hpack
  rcases u with (_ | _) | _ | _ | ⟨_ | _, m, e, hm⟩
  case infinity.positive => exact congrArg Float.ofModel hpack.symm
  all_goals simp [unpackedRank, Prod.Lex.toLex_le_toLex] at hrank

/-! ## Rounding -/

theorem log2_lt_of_lt {n k : ℕ} (hk : 0 < k) (h : n < 2 ^ k) : n.log2 < k := by
  rcases Nat.eq_zero_or_pos n with rfl | hpos
  · exact hk
  · exact (Nat.log2_lt hpos.ne').mpr h

theorem roundedMantissa_le (em : ExtendedMantissa) : em.roundedMantissa ≤ em.mantissa + 1 := by
  rcases em with ⟨m, _ | _, _ | _⟩ <;>
    simp only [ExtendedMantissa.roundedMantissa, ExtendedMantissa.accuracy,
      Accuracy.roundToNearestEven] <;> omega

/-- A mantissa is not rounded up when the bit behind it is not set. -/
theorem roundedMantissa_shiftRightOne_le (em : ExtendedMantissa) :
    em.shiftRightOne.roundedMantissa ≤ em.mantissa / 2 + em.mantissa % 2 := by
  have hle := roundedMantissa_le em.shiftRightOne
  rcases Nat.mod_two_eq_zero_or_one em.mantissa with heven | hodd
  · have hround : em.shiftRightOne.roundedMantissa = em.mantissa / 2 := by
      rcases em with ⟨m, _ | _, _ | _⟩ <;>
        simp_all [ExtendedMantissa.shiftRightOne, ExtendedMantissa.roundedMantissa,
          ExtendedMantissa.accuracy, Accuracy.roundToNearestEven]
    omega
  · rw [hodd]
    exact hle

/-- What has been shifted once and rounded stays in range if neither its exponent nor
its leading bit is beyond that of the largest number. -/
theorem inRange_of_rounded {sign : Sign} {m : ℕ} {e : ℤ} {accuracy : Accuracy}
    {first : ExtendedMantissa × ℤ}
    (hfirst : shiftToTargetExponent Format.binary64 m e accuracy = first) (he : first.2 ≤ 971)
    (hlog : first.1.roundedMantissa.log2 + first.2 ≤ 1023) :
    InRange (roundWithAccuracy Format.binary64 sign m e accuracy) := by
  unfold roundWithAccuracy
  rw [hfirst]
  dsimp only
  split
  · trivial
  · change (shiftToTargetExponent Format.binary64 first.1.roundedMantissa first.2 .exact).2 ≤ 971
    rw [exponent_shiftToTargetExponent]
    omega

theorem inRange_of_log2_le {sign : Sign} {m : ℕ} {e : ℤ} (he : e ≤ 970)
    (hlog : m.log2 + e ≤ 1022) (accuracy : Accuracy) :
    InRange (roundWithAccuracy Format.binary64 sign m e accuracy) := by
  have hexponent := exponent_shiftToTargetExponent m e accuracy
  have hlt := mantissa_shiftToTargetExponent_lt m e accuracy
  obtain ⟨first, hfirst⟩ : ∃ first,
      shiftToTargetExponent Format.binary64 m e accuracy = first := ⟨_, rfl⟩
  rw [hfirst] at hexponent hlt
  refine inRange_of_rounded hfirst (by omega) ?_
  -- Rounding may carry into one bit more, for which there is room.
  have hle := roundedMantissa_le first.1
  have hrounded : first.1.roundedMantissa.log2 < 54 := log2_lt_of_lt (by decide) (by omega)
  omega

/-- The halfway point between the largest number and the next power of two is not
reached. -/
theorem inRange_roundWithAccuracy {sign : Sign} {m : ℕ} {e : ℤ} (he : e ≤ 970)
    (hm : m < (2 ^ 54 - 1) * 2 ^ (970 - e).toNat) :
    InRange (roundWithAccuracy Format.binary64 sign m e .exact) := by
  obtain ⟨k, hk⟩ : ∃ k : ℕ, (970 - e).toNat = k := ⟨_, rfl⟩
  rw [hk] at hm
  rcases le_or_gt (m.log2 + e) 1022 with hlog | hlog
  · exact inRange_of_log2_le he hlog .exact
  have hlog' : m.log2 < 54 + k := by
    refine log2_lt_of_lt (by omega) (hm.trans_le ?_)
    rw [pow_add]
    exact Nat.mul_le_mul_right _ (by decide)
  have hshift : shiftToTargetExponent Format.binary64 m e .exact =
      (ExtendedMantissa.shiftRightOne
        (ExtendedMantissa.ofMantissaAndAccuracy m .exact >>> k), 971) := by
    unfold shiftToTargetExponent shiftToExponent
    dsimp only
    have hamount : (Format.binary64.targetExponent (totalExponent m e) - e).toNat = k + 1 := by
      rw [targetExponent_eq, totalExponent]
      omega
    rw [hamount]
    refine Prod.ext rfl ?_
    dsimp only
    omega
  refine inRange_of_rounded hshift le_rfl ?_
  dsimp only
  -- With a full mantissa the bit behind it is not set.
  have hdiv : m / 2 ^ k < 2 ^ 54 - 1 := Nat.div_lt_of_lt_mul (by rwa [Nat.mul_comm])
  have hrounded := roundedMantissa_shiftRightOne_le
    (ExtendedMantissa.ofMantissaAndAccuracy m .exact >>> k)
  rw [mantissa_shiftRight, mantissa_ofMantissaAndAccuracy] at hrounded
  generalize (ExtendedMantissa.shiftRightOne
    (ExtendedMantissa.ofMantissaAndAccuracy m .exact >>> k)).roundedMantissa = rounded at hrounded
  have hlt : rounded.log2 < 53 := log2_lt_of_lt (by decide) (by omega)
  omega

theorem inRange_round {sign : Sign} {m : ℕ} {e : ℤ} (he : e ≤ 970)
    (hm : m < (2 ^ 54 - 1) * 2 ^ (970 - e).toNat) :
    InRange (UnpackedFloat.round Format.binary64 sign m e) := by
  unfold UnpackedFloat.round decreaseExponent
  dsimp only
  generalize (e - Format.binary64.targetExponent (totalExponent m e)).toNat = shift
  refine inRange_roundWithAccuracy (by omega) ?_
  have hexponent : (970 - (e - shift)).toNat = (970 - e).toNat + shift := by omega
  rw [hexponent, pow_add, ← Nat.mul_assoc, Nat.shiftLeft_eq]
  exact Nat.mul_lt_mul_of_pos_right hm (Nat.two_pow_pos _)

/-! ## Sums -/

/-- A decoded number below `2 ^ 970`, of either sign. -/
def Small : UnpackedFloat → Prop
  | .finite _ m e _ => m.log2 + e ≤ 969
  | .zero _ => True
  | .infinity _ | .notANumber => False

theorem Small.inRange {x : UnpackedFloat} (h : Small x) : InRange x := by
  cases x with
  | finite sign m e hm =>
      have hlog : m.log2 + e ≤ 969 := h
      change e ≤ 971
      omega
  | zero sign => trivial
  | infinity sign => exact h
  | notANumber => exact h

theorem inRange_normalize {k : ℤ} {e : ℤ} {zeroSign : Sign} (he : e ≤ 970)
    (hk : k.natAbs < (2 ^ 54 - 1) * 2 ^ (970 - e).toNat) :
    InRange (UnpackedFloat.normalize Format.binary64 k e zeroSign) := by
  unfold UnpackedFloat.normalize
  split
  · exact inRange_round he (by omega)
  · trivial
  · exact inRange_round he (by omega)

theorem natAbs_apply (sign : Sign) (k : ℤ) : (sign.apply k).natAbs = k.natAbs := by
  cases sign with
  | positive => rfl
  | negative => exact Int.natAbs_neg k

theorem shiftLeft_le_of_inRange {m : ℕ} {e : ℤ} (hm : m < 2 ^ 53) (he : e ≤ 971) (low : ℤ) :
    m <<< (e - low).toNat ≤ (2 ^ 53 - 1) * 2 ^ (971 - low).toNat := by
  rw [Nat.shiftLeft_eq]
  exact Nat.mul_le_mul (Nat.le_sub_one_of_lt hm) (Nat.pow_le_pow_right Nat.two_pos (by omega))

theorem shiftLeft_lt_of_small {m : ℕ} {e low : ℤ} (hlow : low ≤ e) (hlog : m.log2 + e ≤ 969) :
    m <<< (e - low).toNat < 2 ^ (970 - low).toNat := by
  rw [Nat.shiftLeft_eq]
  calc m * 2 ^ (e - low).toNat < 2 ^ (m.log2 + 1) * 2 ^ (e - low).toNat :=
        Nat.mul_lt_mul_of_pos_right Nat.lt_log2_self (Nat.two_pow_pos _)
    _ = 2 ^ (m.log2 + 1 + (e - low).toNat) := (pow_add _ _ _).symm
    _ ≤ 2 ^ (970 - low).toNat := Nat.pow_le_pow_right Nat.two_pos (by omega)

theorem inRange_add {x y : UnpackedFloat} (hx : InRange x) (hx' : Encodable x) (hy : Small y) :
    InRange (UnpackedFloat.add Format.binary64 x y) := by
  fun_cases UnpackedFloat.add
  case case11 s m e hm s' m' e' hm' low k _ hk k' _ hk' sum =>
    have hlow : low = min e e' := rfl
    have hsmall : m'.log2 + e' ≤ 969 := hy
    have hle : k ≤ (2 ^ 53 - 1) * 2 ^ (971 - low).toNat := by
      rw [← show m <<< (e - low).toNat = k from congrArg Prod.fst hk]
      exact shiftLeft_le_of_inRange hx'.1 hx low
    have hlt : k' < 2 ^ (970 - low).toNat := by
      rw [← show m' <<< (e' - low).toNat = k' from congrArg Prod.fst hk']
      exact shiftLeft_lt_of_small (hlow ▸ min_le_right _ _) hsmall
    have habs : sum.natAbs ≤ k + k' := by
      have := Int.natAbs_add_le (s.apply (k : ℤ)) (s'.apply (k' : ℤ))
      rwa [natAbs_apply, natAbs_apply] at this
    have hlow' : low ≤ 969 := by omega
    have hexponent : (971 - low).toNat = (970 - low).toNat + 1 := by omega
    rw [hexponent, pow_succ] at hle
    exact inRange_normalize (by omega) (by omega)
  case case9 => exact hy.inRange
  all_goals simp_all [InRange, Small]

/-- The least number above zero that may lead out of the finite numbers. -/
def overflowStep : Float :=
  Float.ofBits 0x7C90000000000000

theorem rank_overflowStep : rank overflowStep = toLex (1, toLex (918, 2 ^ 52)) :=
  rfl

theorem rank_neg_overflowStep : rank (-overflowStep) = toLex (-1, toLex (-918, -2 ^ 52)) :=
  rfl

theorem log2_add_le_of_lt {m : ℕ} {e : ℤ} (hlt : m < 2 ^ 53)
    (h : e < 918 ∨ e = 918 ∧ m < 2 ^ 52) : m.log2 + e ≤ 969 := by
  rcases h with he | ⟨rfl, hm'⟩
  · have := log2_lt_of_lt (by decide) hlt
    omega
  · have := log2_lt_of_lt (by decide) hm'
    omega

theorem small_of_lt {x : Float} (hlow : -overflowStep < x) (hhigh : x < overflowStep) :
    Small x.toModel.unpack := by
  obtain ⟨-, hnan, hlow⟩ := lt_iff_rank_lt.mp hlow
  obtain ⟨-, -, hhigh⟩ := lt_iff_rank_lt.mp hhigh
  rw [rank_neg_overflowStep, rank] at hlow
  rw [rank_overflowStep, rank] at hhigh
  have hencodable : Encodable x.toModel.unpack := encodable_unpack _
  have hnan' : x.toModel.unpack.isNaN = false := hnan
  generalize x.toModel.unpack = u at hlow hhigh hencodable hnan'
  rcases u with (_ | _) | _ | _ | ⟨_ | _, m, e, hm⟩
  · simp [unpackedRank, Prod.Lex.toLex_lt_toLex] at hlow
  · simp [unpackedRank, Prod.Lex.toLex_lt_toLex] at hhigh
  · cases hnan'
  · trivial
  · have hless : e < 918 ∨ 918 = e ∧ m < 4503599627370496 := by
      simpa [unpackedRank, Prod.Lex.toLex_lt_toLex] using hlow
    exact log2_add_le_of_lt hencodable.1 (by omega)
  · have hless : e < 918 ∨ e = 918 ∧ m < 4503599627370496 := by
      simpa [unpackedRank, Prod.Lex.toLex_lt_toLex] using hhigh
    exact log2_add_le_of_lt hencodable.1 (by omega)

theorem isFinite_add {x y : Float} (hx : x.isFinite = true) (hlow : -overflowStep < y)
    (hhigh : y < overflowStep) : (x + y).isFinite = true :=
  isFinite_unpack_pack.mpr
    (inRange_add (isFinite_iff.mp hx) (encodable_unpack _) (small_of_lt hlow hhigh))

/-- The step itself leads from the largest number to infinity. -/
example : Float.ofBits 0x7FEFFFFFFFFFFFFF + overflowStep = infiniteDistance := by
  decide +kernel

/-- However many small numbers are added up, the sum is finite. -/
theorem isFinite_sum {xs : List Float} (h : ∀ x ∈ xs, -overflowStep < x ∧ x < overflowStep)
    {start : Float} (hstart : start.isFinite = true) :
    (xs.foldl (· + ·) start).isFinite = true := by
  induction xs generalizing start with
  | nil => exact hstart
  | cons x xs ih =>
      obtain ⟨⟨hlow, hhigh⟩, hxs⟩ := List.forall_mem_cons.mp h
      exact ih hxs (isFinite_add hstart hlow hhigh)

/-! ## Quotients -/

/-- A mantissa without its `52` last bits, which are all zero. -/
theorem shiftLeft_div_full (m shift : ℕ) (h : 52 ≤ shift) :
    m <<< shift / 2 ^ 52 = m <<< (shift - 52) ∧ m <<< shift % 2 ^ 52 = 0 := by
  have hsplit : m <<< shift = 2 ^ 52 * m <<< (shift - 52) := by
    rw [Nat.shiftLeft_eq, Nat.shiftLeft_eq, ← Nat.mul_assoc, Nat.mul_comm (2 ^ 52),
      Nat.mul_assoc, ← pow_add, Nat.add_sub_cancel' h]
  rw [hsplit]
  exact ⟨Nat.mul_div_cancel_left _ (Nat.two_pow_pos 52), Nat.mul_mod_right _ _⟩

theorem divCore_one {m : ℕ} {e : ℤ} (hlt : m < 2 ^ 53) (he : -1074 ≤ e) :
    ∃ t, t ≤ max (e - 1) (-1074) ∧
      divCore Format.binary64 m e (2 ^ 52) (-52) = (m <<< (e - t).toNat, t, .exact) := by
  have hlog : m.log2 < 53 := log2_lt_of_lt (by decide) hlt
  have htarget : min (e - -52) (Format.binary64.targetExponent
      (totalExponent m e - totalExponent (2 ^ 52) (-52))) = max (m.log2 + e - 53) (-1074) := by
    rw [targetExponent_eq, totalExponent, totalExponent, Nat.log2_two_pow]
    omega
  refine ⟨max (m.log2 + e - 53) (-1074), by omega, ?_⟩
  unfold divCore
  dsimp only
  rw [htarget]
  obtain ⟨hdiv, hmod⟩ :=
    shiftLeft_div_full m (e - -52 - max (m.log2 + e - 53) (-1074)).toNat (by omega)
  have hshift : (e - -52 - max (m.log2 + e - 53) (-1074)).toNat - 52 =
      (e - max (m.log2 + e - 53) (-1074)).toNat := by omega
  rw [hdiv, hmod, hshift]
  rfl

theorem div_finite {s s' : Sign} {m m' q : ℕ} {e e' t : ℤ} {hm : 0 < m} {hm' : 0 < m'}
    {accuracy : Accuracy} (h : divCore Format.binary64 m e m' e' = (q, t, accuracy)) :
    UnpackedFloat.div Format.binary64 (.finite s m e hm) (.finite s' m' e' hm') =
      roundWithAccuracy Format.binary64 (s / s') q t accuracy := by
  change roundWithAccuracy Format.binary64 (s / s') (divCore Format.binary64 m e m' e').1
    (divCore Format.binary64 m e m' e').2.1 (divCore Format.binary64 m e m' e').2.2 = _
  rw [h]

theorem inRange_div_one {x : UnpackedFloat} (hx : InRange x) (hx' : Encodable x) :
    InRange (UnpackedFloat.div Format.binary64 x
      (.finite .positive (2 ^ 52) (-52) (Nat.two_pow_pos 52))) := by
  cases x with
  | zero sign => trivial
  | infinity sign => exact hx
  | notANumber => exact hx
  | finite sign m e hm =>
      obtain ⟨hlt, hlow⟩ := hx'
      have he : e ≤ 971 := hx
      obtain ⟨t, ht, hdiv⟩ := divCore_one hlt hlow
      have hle := shiftLeft_le_of_inRange hlt he t
      have hexponent : (971 - t).toNat = (970 - t).toNat + 1 := by omega
      have hpow := Nat.two_pow_pos (970 - t).toNat
      rw [hexponent, pow_succ] at hle
      rw [div_finite hdiv]
      exact inRange_roundWithAccuracy (by omega) (by omega)

theorem inRange_div_of_aboveZero {x y : UnpackedFloat} (hx : InRange x) (hx' : Encodable x)
    (hy : AboveZero (-51) y) : InRange (UnpackedFloat.div Format.binary64 x y) := by
  fun_cases UnpackedFloat.div
  case case11 sign m e hm sign' m' e' hm' q t accuracy hq =>
    obtain ⟨hlt, hlow⟩ := hx'
    obtain ⟨-, hfull, he'⟩ := hy
    have he : e ≤ 971 := hx
    have hlog : m.log2 < 53 := log2_lt_of_lt (by decide) hlt
    have hlog' := le_log2_of_full hfull
    have ht : min (e - e') (Format.binary64.targetExponent
      (totalExponent m e - totalExponent m' e')) = t := congrArg (fun core => core.2.1) hq
    have hq' : m <<< (e - e' - t).toNat / m' = q := by
      rw [← ht]
      exact congrArg Prod.fst hq
    rw [targetExponent_eq, totalExponent, totalExponent] at ht
    refine inRange_of_log2_le (by omega) ?_ accuracy
    have hquotient : q < 2 ^ ((e - e' - t).toNat + 1) := by
      rw [← hq', Nat.shiftLeft_eq]
      refine Nat.div_lt_of_lt_mul ?_
      calc m * 2 ^ (e - e' - t).toNat < 2 ^ 53 * 2 ^ (e - e' - t).toNat :=
            Nat.mul_lt_mul_of_pos_right hlt (Nat.two_pow_pos _)
        _ = 2 ^ 52 * 2 ^ ((e - e' - t).toNat + 1) := by ring
        _ ≤ m' * 2 ^ ((e - e' - t).toNat + 1) := Nat.mul_le_mul_right _ hfull
    have hlogq := log2_lt_of_lt (Nat.succ_pos _) hquotient
    omega
  all_goals simp_all [InRange, AboveZero]

theorem not_inRange_div {x y : UnpackedFloat} {low : ℤ} (hx : x.isFinite = false)
    (hy : AboveZero low y) : ¬ InRange (UnpackedFloat.div Format.binary64 x y) := by
  cases x <;> cases y <;>
    simp_all [InRange, AboveZero, UnpackedFloat.div, UnpackedFloat.isFinite]

theorem unpack_one : (Float.ofNat 1).toModel.unpack =
    .finite .positive (2 ^ 52) (-52) (Nat.two_pow_pos 52) := by
  rw [show Float.ofNat 1 = Float.ofBits 0x3FF0000000000000 by decide +kernel]
  rfl

/-- Dividing by a count leads neither out of the finite numbers nor into them. -/
theorem isFinite_div_count {n : ℕ} (hpos : 0 < n) (x : Float) :
    (x / Float.ofNat n).isFinite = true ↔ x.isFinite = true := by
  have hdiv : (x / Float.ofNat n).isFinite = true ↔
      InRange (UnpackedFloat.div Format.binary64 x.toModel.unpack
        (Float.ofNat n).toModel.unpack) := isFinite_unpack_pack
  rw [hdiv]
  constructor
  · intro h
    by_contra hx
    exact not_inRange_div (eq_false_of_ne_true hx) (aboveZero_count hpos) h
  · intro hx
    rcases Nat.eq_or_lt_of_le (Nat.succ_le_of_lt hpos) with rfl | hlt
    · rw [Nat.succ_eq_add_one, Nat.zero_add, unpack_one]
      exact inRange_div_one (isFinite_iff.mp hx) (encodable_unpack _)
    · have hlog : 1 ≤ n.log2 := (Nat.le_log2 hpos.ne').mpr hlt
      refine inRange_div_of_aboveZero (isFinite_iff.mp hx) (encodable_unpack _) ?_
      exact (aboveZero_count hpos).mono (by omega)

end SampledKmeans.Number
