import Mathlib
import SampledKmeans.Nearest

/-!
# The order of the numbers

A comparison of two numbers goes through their signs, exponents and mantissas.
`rank` gathers the three in one element of a linear order, so that a comparison
of numbers is a comparison of ranks (`lt_iff_rank_lt`, `le_iff_rank_le`) and
what is known of linear orders is known of numbers.  Both zeros have the same
rank; a NaN has none worth the name, which is why every statement about ranks
asks whether its numbers are numbers.
-/

namespace SampledKmeans.Number

open Float.Model (UnpackedFloat)

/-- The rank of a decoded number: its class, from negative infinity to positive
infinity, then its exponent, then its mantissa. -/
def unpackedRank : UnpackedFloat → ℤ ×ₗ ℤ ×ₗ ℤ
  | .infinity .negative => toLex (-2, toLex (0, 0))
  | .finite .negative m e _ => toLex (-1, toLex (-e, -m))
  | .zero _ | .notANumber => toLex (0, toLex (0, 0))
  | .finite .positive m e _ => toLex (1, toLex (e, m))
  | .infinity .positive => toLex (2, toLex (0, 0))

/-- The rank of a number. -/
def rank (x : Float) : ℤ ×ₗ ℤ ×ₗ ℤ :=
  unpackedRank x.toModel.unpack

/-! ## Comparing is comparing ranks -/

private theorem compare_neg (a b : ℤ) : compare (-a) (-b) = (compare a b).swap := by
  rcases lt_trichotomy a b with h | h | h
  · rw [compare_lt_iff_lt.mpr h, compare_gt_iff_gt.mpr (Int.neg_lt_neg h)]
    rfl
  · rw [compare_eq_iff_eq.mpr h, compare_eq_iff_eq.mpr (congrArg Neg.neg h)]
    rfl
  · rw [compare_gt_iff_gt.mpr h, compare_lt_iff_lt.mpr (Int.neg_lt_neg h)]
    rfl

private theorem compare_cast (a b : ℕ) : compare (a : ℤ) (b : ℤ) = compare a b := by
  simp only [Int.compare_eq_ite_lt, Nat.compare_eq_ite_lt, Int.ofNat_lt]

theorem compare_eq_compare_rank {x y : UnpackedFloat} (hx : x.isNaN = false)
    (hy : y.isNaN = false) :
    x.compare y = some (compare (unpackedRank x) (unpackedRank y)) := by
  -- Only two finite numbers of one sign are compared by more than their class.
  rcases x with (_ | _) | _ | (_ | _) | ⟨_ | _, m, e, hm⟩ <;>
    rcases y with (_ | _) | _ | (_ | _) | ⟨_ | _, m', e', hm'⟩ <;>
      first
      | rfl
      | (simp [UnpackedFloat.isNaN] at hx hy; done)
      | skip
  · change _ = some ((compare (-e) (-e')).then (compare (-(m : ℤ)) (-m')))
    rw [compare_neg, compare_neg, compare_cast, ← Ordering.swap_then]
    rfl
  · change _ = some ((compare e e').then (compare (m : ℤ) m'))
    rw [compare_cast]
    rfl

theorem compare_eq_none_of_isNaN {x y : UnpackedFloat} (h : ¬ (x.isNaN = false ∧ y.isNaN = false)) :
    x.compare y = none := by
  cases x <;> cases y <;> first | rfl | simp [UnpackedFloat.isNaN] at h

/-- One number is less than another when both are numbers and so are their
ranks. -/
theorem lt_iff_rank_lt {x y : Float} :
    x < y ↔ x.isNaN = false ∧ y.isNaN = false ∧ rank x < rank y := by
  have hlt : x < y ↔ x.toModel.unpack.lt y.toModel.unpack = true := decide_eq_true_iff
  have hnan (z : Float) : z.isNaN = z.toModel.unpack.isNaN := rfl
  rw [hlt, UnpackedFloat.lt, hnan, hnan, rank, rank]
  by_cases h : x.toModel.unpack.isNaN = false ∧ y.toModel.unpack.isNaN = false
  · simp [compare_eq_compare_rank h.1 h.2, h, compare_lt_iff_lt]
  · simp [compare_eq_none_of_isNaN h, ← and_assoc, h]

theorem le_iff_rank_le {x y : Float} :
    x ≤ y ↔ x.isNaN = false ∧ y.isNaN = false ∧ rank x ≤ rank y := by
  have hle : x ≤ y ↔ x.toModel.unpack.le y.toModel.unpack = true := decide_eq_true_iff
  have hnan (z : Float) : z.isNaN = z.toModel.unpack.isNaN := rfl
  rw [hle, UnpackedFloat.le, hnan, hnan, rank, rank]
  by_cases h : x.toModel.unpack.isNaN = false ∧ y.toModel.unpack.isNaN = false
  · simp [compare_eq_compare_rank h.1 h.2, h, compare_le_iff_le, ← Ordering.ne_gt_iff_isLE]
  · simp [compare_eq_none_of_isNaN h, ← and_assoc, h]

/-- Two numbers are equal as numbers when their ranks are the same. -/
theorem beq_iff_rank_eq {x y : Float} :
    (x == y) = true ↔ x.isNaN = false ∧ y.isNaN = false ∧ rank x = rank y := by
  have hbeq : (x == y) = x.toModel.unpack.beq y.toModel.unpack := rfl
  have hnan (z : Float) : z.isNaN = z.toModel.unpack.isNaN := rfl
  rw [hbeq, UnpackedFloat.beq, hnan, hnan, rank, rank]
  by_cases h : x.toModel.unpack.isNaN = false ∧ y.toModel.unpack.isNaN = false
  · simp [compare_eq_compare_rank h.1 h.2, h, compare_eq_iff_eq]
  · simp [compare_eq_none_of_isNaN h, ← and_assoc, h]

/-! ## The order -/

theorem lt_of_lt_of_le {x y z : Float} (hxy : x < y) (hyz : y ≤ z) : x < z := by
  obtain ⟨hx, hy, hrank⟩ := lt_iff_rank_lt.mp hxy
  obtain ⟨-, hz, hrank'⟩ := le_iff_rank_le.mp hyz
  exact lt_iff_rank_lt.mpr ⟨hx, hz, hrank.trans_le hrank'⟩

theorem lt_of_le_of_lt {x y z : Float} (hxy : x ≤ y) (hyz : y < z) : x < z := by
  obtain ⟨hx, hy, hrank⟩ := le_iff_rank_le.mp hxy
  obtain ⟨-, hz, hrank'⟩ := lt_iff_rank_lt.mp hyz
  exact lt_iff_rank_lt.mpr ⟨hx, hz, hrank.trans_lt hrank'⟩

theorem le_of_lt {x y : Float} (h : x < y) : x ≤ y := by
  obtain ⟨hx, hy, hrank⟩ := lt_iff_rank_lt.mp h
  exact le_iff_rank_le.mpr ⟨hx, hy, hrank.le⟩

theorem le_trans {x y z : Float} (hxy : x ≤ y) (hyz : y ≤ z) : x ≤ z := by
  obtain ⟨hx, hy, hrank⟩ := le_iff_rank_le.mp hxy
  obtain ⟨-, hz, hrank'⟩ := le_iff_rank_le.mp hyz
  exact le_iff_rank_le.mpr ⟨hx, hz, hrank.trans hrank'⟩

theorem not_lt_of_le {x y : Float} (h : x ≤ y) : ¬ y < x := by
  intro hlt
  exact absurd (lt_iff_rank_lt.mp hlt).2.2 (not_lt.mpr (le_iff_rank_le.mp h).2.2)

theorem le_of_not_lt {x y : Float} (hx : x.isNaN = false) (hy : y.isNaN = false) (h : ¬ y < x) :
    x ≤ y := by
  rw [lt_iff_rank_lt] at h
  exact le_iff_rank_le.mpr ⟨hx, hy, not_lt.mp fun hlt => h ⟨hy, hx, hlt⟩⟩

theorem lt_of_not_le {x y : Float} (hx : x.isNaN = false) (hy : y.isNaN = false) (h : ¬ y ≤ x) :
    x < y := by
  rw [le_iff_rank_le] at h
  exact lt_iff_rank_lt.mpr ⟨hx, hy, not_le.mp fun hle => h ⟨hy, hx, hle⟩⟩

theorem lt_irrefl (x : Float) : ¬ x < x := by
  intro h
  exact absurd (lt_iff_rank_lt.mp h).2.2 (Std.lt_irrefl)

theorem le_of_beq {x y : Float} (h : (x == y) = true) : y ≤ x := by
  obtain ⟨hx, hy, hrank⟩ := beq_iff_rank_eq.mp h
  exact le_iff_rank_le.mpr ⟨hy, hx, hrank.ge⟩

theorem le_refl_of_not_isNaN {x : Float} (hx : x.isNaN = false) : x ≤ x :=
  le_iff_rank_le.mpr ⟨hx, hx, le_rfl⟩

/-! ## Zero and infinity -/

theorem isNaN_zero : (0.0 : Float).isNaN = false :=
  rfl

theorem rank_zero : rank 0.0 = toLex (0, toLex (0, 0)) :=
  rfl

theorem isNaN_infiniteDistance : infiniteDistance.isNaN = false :=
  rfl

theorem rank_infiniteDistance : rank infiniteDistance = toLex (2, toLex (0, 0)) :=
  rfl

theorem not_infiniteDistance_le_zero : ¬ infiniteDistance ≤ 0.0 := by
  rw [le_iff_rank_le, rank_infiniteDistance, rank_zero]
  simp [Prod.Lex.toLex_le_toLex]

theorem le_infiniteDistance {x : Float} (hx : x.isNaN = false) : x ≤ infiniteDistance := by
  rw [le_iff_rank_le, rank_infiniteDistance, rank]
  refine ⟨hx, isNaN_infiniteDistance, ?_⟩
  -- Infinity alone has the class of infinity.
  rcases x.toModel.unpack with (_ | _) | _ | _ | ⟨_ | _, m, e, hm⟩ <;>
    simp [unpackedRank, Prod.Lex.toLex_le_toLex]

/-! ## The smaller of two numbers -/

theorem smaller_le_right (x : Float) {y : Float} (hy : y.isNaN = false) : smaller x y ≤ y := by
  unfold smaller
  split_ifs with hx hnan hlt
  · exact le_refl_of_not_isNaN hy
  · rw [hy] at hnan
    cases hnan
  · exact le_refl_of_not_isNaN hy
  · exact le_of_not_lt (eq_false_of_ne_true hx) hy hlt

theorem isNaN_smaller {x : Float} (hx : x.isNaN = false) (y : Float) :
    (smaller x y).isNaN = false := by
  unfold smaller
  split_ifs with hx' hy
  · rw [hx] at hx'
    cases hx'
  · exact hx
  · exact eq_false_of_ne_true hy
  · exact hx

theorem smaller_le_iff {x y z : Float} (hx : x.isNaN = false) :
    smaller x y ≤ z ↔ x ≤ z ∨ y ≤ z := by
  unfold smaller
  split_ifs with hx' hy hlt
  · rw [hx] at hx'
    cases hx'
  · refine ⟨.inl, fun h => h.resolve_right fun hyz => ?_⟩
    rw [(le_iff_rank_le.mp hyz).1] at hy
    cases hy
  · exact ⟨.inr, fun h => h.elim (fun hxz => le_trans (le_of_lt hlt) hxz) id⟩
  · have hxy : x ≤ y := le_of_not_lt hx (eq_false_of_ne_true hy) hlt
    exact ⟨.inl, fun h => h.elim id fun hyz => le_trans hxy hyz⟩

end SampledKmeans.Number
