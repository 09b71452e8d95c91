import SampledKmeans.Proofs.Number.Vanishing
import SampledKmeans.Proofs.Vector.Walk

/-!
# Where two vectors differ

The distance of two vectors is at most zero exactly when the squared difference
is zero at every index (`distance?_le_zero_iff`): nothing that a walk meets gets
lost when it is added up.  A vector is therefore at distance zero from itself.
Two different vectors may be so, too, since the square of a small number is
zero.
-/

namespace SampledKmeans.SparseVector

/-- The squared difference of two coordinates, each of which may not be stored. -/
def squareOf : Option Float → Option Float → Float
  | some x, some y => (x - y) * (x - y)
  | some x, none => x * x
  | none, some y => y * y
  | none, none => 0.0

/-- The squared difference of two vectors at an index. -/
def squareAt (a b : SparseVector) (i : UInt32) : Float :=
  squareOf (a.coordinates.lookup i) (b.coordinates.lookup i)

/-! ## The squares of a walk -/

/-- Every square that a walk adds up is zero. -/
def Walk.Vanishes (walk : Walk) : Prop :=
  (∀ gap ∈ walk.gaps, gap.square = 0.0) ∧ (∀ x ∈ walk.leftRest, x * x = 0.0) ∧
    ∀ y ∈ walk.rightRest, y * y = 0.0

theorem unsigned_square (gap : Gap) : Number.Unsigned gap.square.toModel.unpack := by
  cases gap <;> exact Number.unsigned_mul_self _

theorem sumSquares_eq_zero_iff (values : List Float) :
    sumSquares values = 0.0 ↔ ∀ v ∈ values, v * v = 0.0 := by
  rw [sumSquares, Number.foldl_add_eq_zero_iff Number.unsigned_mul_self Number.unsigned_zero]
  exact and_iff_right rfl

theorem unsigned_sumSquares (values : List Float) :
    Number.Unsigned (sumSquares values).toModel.unpack :=
  Number.unsigned_foldl_add Number.unsigned_mul_self Number.unsigned_zero values

theorem unsigned_sumGaps (gaps : List Gap) :
    Number.Unsigned (gaps.foldl (fun sum (gap : Gap) => sum + gap.square) 0.0).toModel.unpack :=
  Number.unsigned_foldl_add unsigned_square Number.unsigned_zero gaps

theorem Walk.unsigned_radicand (walk : Walk) : Number.Unsigned walk.radicand.toModel.unpack :=
  Number.unsigned_add (Number.unsigned_add (unsigned_sumGaps _) (unsigned_sumSquares _))
    (unsigned_sumSquares _)

theorem Walk.radicand_eq_zero_iff (walk : Walk) : walk.radicand = 0.0 ↔ walk.Vanishes := by
  rw [Walk.radicand, Number.add_eq_zero_iff (Number.unsigned_add (unsigned_sumGaps _)
    (unsigned_sumSquares _)) (unsigned_sumSquares _), Number.add_eq_zero_iff (unsigned_sumGaps _)
    (unsigned_sumSquares _), sumSquares_eq_zero_iff, sumSquares_eq_zero_iff,
    Number.foldl_add_eq_zero_iff unsigned_square Number.unsigned_zero, and_iff_right rfl, and_assoc]
  rfl

theorem Walk.vanishes_iff (walk : Walk) :
    walk.Vanishes ↔ ∀ entry ∈ walk.entries, squareOf entry.1 entry.2 = 0.0 := by
  have hgap : ∀ gap : Gap, squareOf gap.entry.1 gap.entry.2 = gap.square := by
    intro gap
    cases gap <;> rfl
  simp only [Walk.entries, List.forall_mem_append, List.forall_mem_map, hgap, and_assoc]
  rfl

/-! ## The distance -/

/-- The squares of two lists of coordinates are zero at every index. -/
def AllZero (left right : List (UInt32 × Float)) : Prop :=
  ∀ k, squareOf (left.lookup k) (right.lookup k) = 0.0

/-- An index that a walk does not meet has no square. -/
theorem Walk.Covers.vanishes_iff {walk : Walk} {left right : List (UInt32 × Float)}
    (h : walk.Covers left right) : walk.Vanishes ↔ AllZero left right := by
  obtain ⟨order, -, horder, hentries⟩ := h
  rw [walk.vanishes_iff, hentries, List.forall_mem_map]
  constructor
  · intro hzero k
    by_cases hk : k ∈ order
    · exact hzero k hk
    · rw [horder, not_or] at hk
      rw [lookup_eq_none_of_not_mem hk.1, lookup_eq_none_of_not_mem hk.2]
      rfl
  · intro hzero k _
    exact hzero k

variable {a b : SparseVector} {d : Float}

/-- Two vectors are at a distance of at most zero when no squared difference is left of
them. -/
theorem distance?_le_zero_iff (ha : a.Valid) (hb : b.Valid) (h : distance? a b = some d) :
    d ≤ 0.0 ↔ ∀ i, a.squareAt b i = 0.0 := by
  obtain ⟨walk, hwalk, hcovers⟩ := ha.ordered.exists_walk hb.ordered
  rw [distance?, hwalk] at h
  obtain rfl := Option.some.inj h
  rw [Number.sqrt_le_zero_iff walk.unsigned_radicand, walk.radicand_eq_zero_iff]
  exact hcovers.vanishes_iff

/-- The square of the smallest number above zero is zero. -/
example : distance? ⟨[0], [Float.ofBits 1]⟩ ⟨[], []⟩ = some 0.0 := by
  decide +kernel

theorem squareAt_self (h : a.Valid) (i : UInt32) : a.squareAt a i = 0.0 := by
  unfold squareAt
  cases hlookup : a.coordinates.lookup i with
  | none => rfl
  | some x =>
      obtain ⟨before, after, heq, -⟩ := List.lookup_eq_some_iff.mp hlookup
      have hmem : (i, x) ∈ a.coordinates := heq ▸ List.mem_append_right _ List.mem_cons_self
      have hfinite := h.finite x (List.of_mem_zip hmem).2
      rw [squareOf, Number.sub_self_of_isFinite hfinite, Number.zero_mul_zero]

theorem distance?_self_le_zero (ha : a.Valid) (h : distance? a a = some d) : d ≤ 0.0 :=
  (distance?_le_zero_iff ha ha h).mpr (squareAt_self ha)

end SampledKmeans.SparseVector
