import Mathlib
import SampledKmeans.Proofs.Number.Magnitude

/-!
# Numbers that are equal

Numbers are compared by their ranks, and so equality is symmetric, and every number that
is finite equals itself.  Different numbers may be equal, but these are zeros: apart from
them a rank belongs to one number alone (`eq_of_beq_of_nonzero`).
-/

namespace SampledKmeans.Number

open Float.Model (UnpackedFloat)

theorem beq_self_of_isFinite {x : Float} (h : x.isFinite = true) : (x == x) = true :=
  beq_iff_rank_eq.mpr ⟨isNaN_of_isFinite h, isNaN_of_isFinite h, rfl⟩

theorem beq_symm {x y : Float} (h : (x == y) = true) : (y == x) = true := by
  obtain ⟨hx, hy, hrank⟩ := beq_iff_rank_eq.mp h
  exact beq_iff_rank_eq.mpr ⟨hy, hx, hrank.symm⟩

theorem unpacked_eq_of_rank_eq {x y : UnpackedFloat} (hx : x.isNaN = false) (hy : y.isNaN = false)
    (hzero : unpackedRank x ≠ toLex (0, toLex (0, 0))) (h : unpackedRank x = unpackedRank y) :
    x = y := by
  -- Two classes have different ranks, and of the finite numbers the rank shows everything.
  rcases x with (_ | _) | _ | (_ | _) | ⟨_ | _, m, e, hm⟩ <;>
    rcases y with (_ | _) | _ | (_ | _) | ⟨_ | _, m', e', hm'⟩ <;>
      simp_all [unpackedRank, UnpackedFloat.isNaN]

/-- Only zeros are equal without being the same. -/
theorem eq_of_beq_of_nonzero {x y : Float} (h : (x == y) = true) (hnonzero : (x != 0.0) = true) :
    x = y := by
  obtain ⟨hx, hy, hrank⟩ := beq_iff_rank_eq.mp h
  have hne : rank x ≠ toLex (0, toLex (0, 0)) := by
    intro heq
    have hzero : (x == 0.0) = true := beq_iff_rank_eq.mpr ⟨hx, isNaN_zero, heq⟩
    rw [bne, hzero] at hnonzero
    cases hnonzero
  have hunpack : x.toModel.unpack = y.toModel.unpack := unpacked_eq_of_rank_eq hx hy hne hrank
  have hmodel : x.toModel = y.toModel := by
    rw [← pack_unpack x.toModel, hunpack, pack_unpack]
  exact congrArg Float.ofModel hmodel

end SampledKmeans.Number
