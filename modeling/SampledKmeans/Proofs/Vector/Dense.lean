import Mathlib.Algebra.BigOperators.Group.Finset.Basic
import Mathlib.Data.Finset.Range
import Mathlib.Tactic.Ring
import SampledKmeans.Proofs.Vector.Walk

/-!
# Sparse and dense distances

A distance is the root of a sum of squares, one for each index that a walk meets, and a
walk meets the indices that one of the two vectors stores (`Walk.Covers`).  The values at
the indices below a dimension are the stored ones and zeros everywhere else
(`toDense_eq`).  Zeros add nothing, so that with exact numbers the squares of a walk sum
up to the squared distance of the dense vectors (`Walk.Covers.radicandIn_eq`).  The
numbers of the library are rounded, and there the two sums need not agree.
-/

namespace SampledKmeans.SparseVector

variable {a b v : SparseVector} {left right : List (UInt32 × Float)}

/-! ## The terms of a walk -/

/-- The difference at an index, whose square is added up. -/
def Gap.term : Gap → Float
  | .both _ x y => x - y
  | .left _ x => x
  | .right _ y => y

/-- What a walk squares and adds up, in this order. -/
def Walk.terms (walk : Walk) : List Float :=
  walk.gaps.map Gap.term ++ walk.leftRest ++ walk.rightRest

theorem Walk.radicand_eq (walk : Walk) :
    walk.radicand = sumSquares (walk.gaps.map Gap.term) + sumSquares walk.leftRest +
      sumSquares walk.rightRest := by
  have hsquare : ∀ gap : Gap, gap.square = gap.term * gap.term := by
    intro gap
    cases gap <;> rfl
  simp only [Walk.radicand, sumSquares, List.foldl_map, hsquare]

/-- The difference of two coordinates, of which at least one is stored. -/
def Entry.term : Entry → Float
  | (some x, some y) => x - y
  | (some x, none) => x
  | (none, some y) => y
  | (none, none) => 0.0

theorem Walk.terms_eq (walk : Walk) : walk.terms = walk.entries.map Entry.term := by
  have hgaps : walk.gaps.map Gap.term = walk.gaps.map fun gap => gap.entry.term := by
    refine List.map_congr_left fun gap _ => ?_
    cases gap <;> rfl
  have hleft : ∀ x : Float, Entry.term (some x, none) = x := fun _ => rfl
  have hright : ∀ y : Float, Entry.term (none, some y) = y := fun _ => rfl
  simp only [Walk.terms, Walk.entries, List.map_append, List.map_map, Function.comp_def, hgaps,
    hleft, hright, List.map_id']

/-! ## Dense vectors -/

/-- The value that a list of coordinates has at a position: zero where no coordinate
stands. -/
def valueAt (coordinates : List (UInt32 × Float)) (position : Nat) : Float :=
  ((coordinates.map fun c => (c.1.toNat, c.2)).lookup position).getD 0.0

theorem lookup_toNat (coordinates : List (UInt32 × Float)) (i : UInt32) :
    (coordinates.map fun c => (c.1.toNat, c.2)).lookup i.toNat = coordinates.lookup i := by
  induction coordinates with
  | nil => rfl
  | cons c coordinates ih =>
      have hbeq : (i.toNat == c.1.toNat) = (i == c.1) := by
        rw [Bool.eq_iff_iff, beq_iff_eq, beq_iff_eq, UInt32.toNat_inj]
      rw [List.map_cons, List.lookup_cons, List.lookup_cons, hbeq, ih]

theorem valueAt_toNat (coordinates : List (UInt32 × Float)) (i : UInt32) :
    valueAt coordinates i.toNat = (coordinates.lookup i).getD 0.0 := by
  rw [valueAt, lookup_toNat]

theorem valueAt_of_not_mem {coordinates : List (UInt32 × Float)} {position : Nat}
    (h : ∀ i ∈ coordinates.map Prod.fst, i.toNat ≠ position) :
    valueAt coordinates position = 0.0 := by
  have hnone : (coordinates.map fun c => (c.1.toNat, c.2)).lookup position = none := by
    rw [List.lookup_eq_none_iff, List.forall_mem_map]
    intro c hc
    exact bne_iff_ne.mpr (h c.1 (List.mem_map_of_mem hc)).symm
  rw [valueAt, hnone, Option.getD_none]

/-- Coordinates of different indices are written to different positions. -/
theorem getElem?_foldl_set {coordinates : List (UInt32 × Float)} (h : Ascending coordinates)
    (dense : List Float) (position : Nat) :
    (coordinates.foldl (fun dense (i, x) => dense.set i.toNat x) dense)[position]? =
      dense[position]?.map fun x =>
        ((coordinates.map fun c => (c.1.toNat, c.2)).lookup position).getD x := by
  induction coordinates generalizing dense with
  | nil => simp
  | cons c coordinates ih =>
      obtain ⟨hlt, hrest⟩ := List.pairwise_cons.mp h
      rw [List.foldl_cons, ih hrest, List.map_cons]
      by_cases heq : c.1.toNat = position
      · subst heq
        rw [List.lookup_cons_self, lookup_toNat, lookup_eq_none_of_lt hlt, List.getElem?_set]
        by_cases hposition : c.1.toNat < dense.length <;> simp [hposition]
      · rw [List.getElem?_set_ne heq, List.lookup_cons, beq_eq_false_iff_ne.mpr (Ne.symm heq)]

/-- A dense vector has the stored values at their indices and zeros elsewhere. -/
theorem toDense_eq (h : Ascending v.coordinates) (dim : Nat) :
    v.toDense dim = (List.range dim).map (valueAt v.coordinates) := by
  refine List.ext_getElem? fun position => ?_
  have hset := getElem?_foldl_set h (List.replicate dim 0.0) position
  rw [toDense, hset, List.getElem?_map]
  by_cases hposition : position < dim
  · rw [List.getElem?_replicate_of_lt hposition, List.getElem?_range hposition]
    rfl
  · rw [List.getElem?_eq_none (by simpa using hposition),
      List.getElem?_eq_none (by simpa using hposition)]
    rfl

/-! ## Exact numbers -/

section Exact

variable {R : Type} (value : Float → R)

/-- The squared difference at an index, computed with the numbers of `R`. -/
def Gap.squareIn [Sub R] [Mul R] : Gap → R
  | .both _ x y => (value x - value y) * (value x - value y)
  | .left _ x => value x * value x
  | .right _ y => value y * value y

/-- The sum of the squares of values, computed with the numbers of `R`. -/
def sumSquaresIn [Add R] [Mul R] (values : List Float) : R :=
  values.foldl (fun sum v => sum + value v * value v) (value 0.0)

/-- The squared distance that a walk adds up to, computed with the numbers of `R`. -/
def Walk.radicandIn [Add R] [Sub R] [Mul R] (walk : Walk) : R :=
  walk.gaps.foldl (fun sum gap => sum + gap.squareIn value) (value 0.0) +
    sumSquaresIn value walk.leftRest + sumSquaresIn value walk.rightRest

theorem Walk.radicandIn_id (walk : Walk) : walk.radicandIn id = walk.radicand :=
  rfl

variable [CommRing R] {value}

theorem foldl_add_eq {α : Type} (f : α → R) (start : R) (l : List α) :
    l.foldl (fun sum x => sum + f x) start = start + (l.map f).sum := by
  induction l generalizing start with
  | nil => simp
  | cons x l ih => rw [List.foldl_cons, ih, List.map_cons, List.sum_cons, add_assoc]

/-- The squared difference of two coordinates, of which those that are not stored are
zero. -/
def Entry.squareIn (value : Float → R) (entry : Entry) : R :=
  (value (entry.1.getD 0.0) - value (entry.2.getD 0.0)) ^ 2

theorem Walk.radicandIn_eq_sum (hzero : value 0.0 = 0) (walk : Walk) :
    walk.radicandIn value = (walk.entries.map (Entry.squareIn value)).sum := by
  have hgap : ∀ gap : Gap, gap.squareIn value = gap.entry.squareIn value := by
    intro gap
    cases gap <;> simp only [Gap.squareIn, Gap.entry, Entry.squareIn, Option.getD_some,
      Option.getD_none, hzero] <;> ring
  have hleft : ∀ x, Entry.squareIn value (some x, none) = value x * value x := by
    intro x
    simp only [Entry.squareIn, Option.getD_some, Option.getD_none, hzero]
    ring
  have hright : ∀ y, Entry.squareIn value (none, some y) = value y * value y := by
    intro y
    simp only [Entry.squareIn, Option.getD_some, Option.getD_none, hzero]
    ring
  simp only [Walk.radicandIn, sumSquaresIn, foldl_add_eq, hzero, zero_add, Walk.entries,
    List.map_append, List.sum_append, List.map_map, Function.comp_def, hgap, hleft, hright]

/-- Indices that neither list holds add nothing to the squared distance. -/
theorem Walk.Covers.radicandIn_eq {walk : Walk} (hcovers : walk.Covers left right)
    (hzero : value 0.0 = 0) {dim : Nat} (hleft : ∀ i ∈ left.map Prod.fst, i.toNat < dim)
    (hright : ∀ i ∈ right.map Prod.fst, i.toNat < dim) :
    walk.radicandIn value = ((List.range dim).map fun position =>
      (value (valueAt left position) - value (valueAt right position)) ^ 2).sum := by
  obtain ⟨order, hpairwise, horder, hentries⟩ := hcovers
  let square (position : Nat) : R :=
    (value (valueAt left position) - value (valueAt right position)) ^ 2
  have hnodup : (order.map UInt32.toNat).Nodup := by
    refine (hpairwise.imp UInt32.ne_of_lt).map UInt32.toNat ?_
    intro i j hne heq
    exact hne (UInt32.toNat_inj.mp heq)
  have hsubset : (order.map UInt32.toNat).toFinset ⊆ (List.range dim).toFinset := by
    intro position hposition
    obtain ⟨i, hi, rfl⟩ := List.mem_map.mp (List.mem_toFinset.mp hposition)
    rw [List.mem_toFinset, List.mem_range]
    exact ((horder i).mp hi).elim (hleft i) (hright i)
  have hrest : ∀ position ∈ (List.range dim).toFinset,
      position ∉ (order.map UInt32.toNat).toFinset → square position = 0 := by
    intro position _ hposition
    have hnot : ∀ i ∈ order, i.toNat ≠ position := by
      rintro i hi rfl
      exact hposition (List.mem_toFinset.mpr (List.mem_map_of_mem hi))
    dsimp only [square]
    rw [valueAt_of_not_mem fun i hi => hnot i ((horder i).mpr (.inl hi)),
      valueAt_of_not_mem fun i hi => hnot i ((horder i).mpr (.inr hi)), sub_self,
      zero_pow two_ne_zero]
  calc
    walk.radicandIn value = (walk.entries.map (Entry.squareIn value)).sum :=
      walk.radicandIn_eq_sum hzero
    _ = ((order.map UInt32.toNat).map square).sum := by
      rw [hentries, List.map_map, List.map_map]
      refine congrArg List.sum (List.map_congr_left fun i _ => ?_)
      simp only [Function.comp_apply, square, Entry.squareIn, valueAt_toNat]
    _ = ((List.range dim).map square).sum := by
      rw [← List.sum_toFinset _ hnodup, ← List.sum_toFinset _ List.nodup_range]
      exact Finset.sum_subset hsubset hrest

end Exact

/-! ## The distance -/

/-- The term that two vectors contribute at an index. -/
def termAt (a b : SparseVector) (i : UInt32) : Float :=
  Entry.term (a.coordinates.lookup i, b.coordinates.lookup i)

/-- Two vectors whose indices increase have a distance.  It is the root of a sum of
squares, one for every index that at least one of them stores.  With exact numbers the
sum is that over all indices below a dimension that has room for both vectors. -/
theorem distance?_dense (ha : a.Ordered) (hb : b.Ordered) :
    ∃ walk, walk? a b = some walk ∧ distance? a b = some walk.radicand.sqrt ∧
      walk.radicand = sumSquares (walk.gaps.map Gap.term) + sumSquares walk.leftRest +
        sumSquares walk.rightRest ∧
      (∃ order : List UInt32, order.Pairwise (· < ·) ∧
        (∀ i, i ∈ order ↔ i ∈ a.indices ∨ i ∈ b.indices) ∧
        walk.terms = order.map (a.termAt b)) ∧
      ∀ (R : Type) [CommRing R] (value : Float → R), value 0.0 = 0 →
        ∀ dim : Nat, (∀ i ∈ a.indices, i.toNat < dim) → (∀ i ∈ b.indices, i.toNat < dim) →
          walk.radicandIn value = (List.zipWith (fun x y => (value x - value y) ^ 2)
            (a.toDense dim) (b.toDense dim)).sum := by
  obtain ⟨walk, hwalk, hcovers⟩ := ha.exists_walk hb
  refine ⟨walk, hwalk, by rw [distance?, hwalk, Option.map_some], walk.radicand_eq, ?_, ?_⟩
  · obtain ⟨order, hpairwise, horder, hentries⟩ := hcovers
    rw [ha.map_fst_coordinates, hb.map_fst_coordinates] at horder
    refine ⟨order, hpairwise, horder, ?_⟩
    rw [walk.terms_eq, hentries, List.map_map]
    rfl
  · intro R _ value hzero dim hleft hright
    rw [← ha.map_fst_coordinates] at hleft
    rw [← hb.map_fst_coordinates] at hright
    rw [hcovers.radicandIn_eq hzero hleft hright, toDense_eq ha.ascending, toDense_eq hb.ascending,
      List.zipWith_map, List.zipWith_self]

/-- A number as a fraction; zero for infinity and for what is not a number. -/
def exactly (x : Float) : ℚ :=
  match x.toModel.unpack with
  | .finite sign m e _ => mkRat (sign.apply m * 2 ^ e.toNat) (2 ^ (-e).toNat)
  | _ => 0

/-- The index `3` is stored on both sides, and the index `8` with the same value. -/
theorem distance?_dense_crossing :
    let a : SparseVector := { indices := [1, 3, 8], values := [1.0, -2.0, 0.5] }
    let b : SparseVector := { indices := [0, 3, 8], values := [2.0, 1.0, 0.5] }
    a.Ordered ∧ b.Ordered ∧ exactly 0.0 = 0 ∧ (∀ i ∈ a.indices, i.toNat < 10) ∧
      (∀ i ∈ b.indices, i.toNat < 10) ∧ ∃ walk, walk? a b = some walk ∧
      walk.terms = [2.0, 1.0, -3.0, 0.0] ∧ distance? a b = some (14.0 : Float).sqrt ∧
      walk.radicandIn exactly = 14 ∧
      walk.radicandIn exactly = (List.zipWith (fun x y => (exactly x - exactly y) ^ 2)
        (a.toDense 10) (b.toDense 10)).sum := by
  intro a b
  have ha : a.Ordered := ⟨by decide, by decide⟩
  have hb : b.Ordered := ⟨by decide, by decide⟩
  have hzero : exactly 0.0 = 0 := rfl
  have hdim : ∀ i ∈ a.indices, i.toNat < 10 := by simp [a]
  have hdim' : ∀ i ∈ b.indices, i.toNat < 10 := by simp [b]
  obtain ⟨walk, hwalk, -, -, -, hexact⟩ := distance?_dense ha hb
  have hdense := hexact ℚ exactly hzero 10 hdim hdim'
  refine ⟨ha, hb, hzero, hdim, hdim', walk, hwalk, ?_, by decide +kernel, ?_, hdense⟩
  all_goals
    obtain rfl := Option.some.inj hwalk
    decide +kernel

end SampledKmeans.SparseVector
