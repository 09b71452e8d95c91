import SampledKmeans.Proofs.Vector.Lookup
import SampledKmeans.Proofs.Vector.Mean

/-!
# The mean at an index

The sums behind a mean are kept together, in the order of their indices, and each number
goes to its own.  The mean of vectors in order is nevertheless what one would compute
index by index (`meanAt`): the values there from left to right, divided by the number of
all vectors (`meanOf_coordinatewise`).

An index that no vector stores has the sum zero, and so has one at which the values
cancel.  In neither case is a coordinate left (`mem_coordinates_mean_iff`).
-/

namespace SampledKmeans.SparseVector

variable {vectors : List SparseVector}

/-- The mean of the values at an index: those of the vectors that store it are added up
in the order of the vectors and divided by the number of all vectors. -/
def meanAt (vectors : List SparseVector) (i : UInt32) : Float :=
  (vectors.filterMap fun v => v.coordinates.lookup i).foldl (· + ·) 0.0 /
    Float.ofNat vectors.length

/-! ## The values at an index -/

/-- Coordinates in order have at most one value at an index. -/
theorem Ascending.valuesAt_eq {coordinates : List (UInt32 × Float)} (h : Ascending coordinates)
    (i : UInt32) :
    (coordinates.filter fun c => i = c.1).map Prod.snd = (coordinates.lookup i).toList := by
  induction coordinates with
  | nil => rfl
  | cons c coordinates ih =>
      obtain ⟨hlt, hrest⟩ := List.pairwise_cons.mp h
      by_cases heq : i = c.1
      · have hnone : coordinates.lookup i = none :=
          lookup_eq_none_of_lt fun c' hc' => heq ▸ hlt c' hc'
        rw [List.filter_cons, if_pos (decide_eq_true heq), List.map_cons, ih hrest, hnone, heq,
          List.lookup_cons_self]
        rfl
      · rw [List.filter_cons, if_neg (by simpa using heq), ih hrest, lookup_cons_of_ne heq]

theorem valuesAt_eq_filterMap (hordered : ∀ v ∈ vectors, v.Ordered) (i : UInt32) :
    valuesAt vectors i = vectors.filterMap fun v => v.coordinates.lookup i := by
  rw [valuesAt, List.filter_flatMap, List.map_flatMap, List.filterMap_eq_flatMap_toList]
  exact List.flatMap_congr fun v hv => (hordered v hv).ascending.valuesAt_eq i

theorem sumAt_div_eq_meanAt (hordered : ∀ v ∈ vectors, v.Ordered) (i : UInt32) :
    sumAt vectors i / Float.ofNat vectors.length = meanAt vectors i := by
  rw [sumAt, valuesAt_eq_filterMap hordered, meanAt]

/-- At an index that no vector stores there is nothing to add up. -/
theorem meanAt_of_not_stored (h : vectors ≠ []) {i : UInt32}
    (hordered : ∀ v ∈ vectors, v.Ordered) (hi : ∀ v ∈ vectors, i ∉ v.indices) :
    meanAt vectors i = 0.0 := by
  have hnil : (vectors.filterMap fun v => v.coordinates.lookup i) = [] :=
    List.filterMap_eq_nil_iff.mpr fun v hv =>
      (hordered v hv).lookup_eq_none_iff.mpr (hi v hv)
  rw [meanAt, hnil]
  exact Number.zero_div_count (List.length_pos_iff.mpr h)

/-! ## The coordinates of a mean -/

theorem eq_sumAt_of_mem {i : UInt32} {sum : Float} (h : (i, sum) ∈ vectors.foldl addTo []) :
    sum = sumAt vectors i := by
  rw [← sumIn_sums, sumIn, (ascending_sums vectors).lookup_eq_some_iff.mpr h, Option.getD_some]

theorem mem_coordinates_mean_iff (h : vectors ≠ []) {mean : SparseVector}
    (hmean : mean? vectors = some mean) {i : UInt32} {x : Float} :
    (i, x) ∈ mean.coordinates ↔
      x = sumAt vectors i / Float.ofNat vectors.length ∧ (x != 0.0) = true := by
  obtain rfl := Option.some.inj ((mean?_eq h).symm.trans hmean)
  rw [coordinates_ofCoordinates, List.mem_filter, quotients, List.mem_map]
  constructor
  · rintro ⟨⟨⟨j, sum⟩, hsum, heq⟩, hstored⟩
    obtain ⟨rfl, rfl⟩ := Prod.mk.inj heq
    exact ⟨by rw [eq_sumAt_of_mem hsum], hstored⟩
  · rintro ⟨rfl, hnonzero⟩
    refine ⟨⟨(i, sumAt vectors i), ?_, rfl⟩, hnonzero⟩
    cases hlookup : (vectors.foldl addTo []).lookup i with
    | some sum =>
        have hmem := (ascending_sums vectors).lookup_eq_some_iff.mp hlookup
        rwa [eq_sumAt_of_mem hmem] at hmem
    | none =>
        -- Where no sum is kept, a zero would be divided.
        have hzero : sumAt vectors i = 0.0 := by
          rw [← sumIn_sums, sumIn, hlookup, Option.getD_none]
        rw [hzero, Number.zero_div_count (List.length_pos_iff.mpr h)] at hnonzero
        cases hnonzero

/-! ## The mean -/

/-- The mean of no vectors is an error.  That of vectors in order is tidy and has the mean
of the values at every index, stored where it is not zero; an index that no vector stores
is not stored. -/
theorem meanOf_coordinatewise (hordered : ∀ v ∈ vectors, v.Ordered) :
    (vectors = [] → meanOf vectors = .error .emptyInput) ∧
      (vectors ≠ [] → ∃ mean, meanOf vectors = .ok mean ∧ mean.Tidy ∧
        (∀ i x, (i, x) ∈ mean.coordinates ↔ x = meanAt vectors i ∧ (x != 0.0) = true) ∧
        (∀ i, mean.get? i = some (asRead (meanAt vectors i))) ∧
        ∀ i, (∀ v ∈ vectors, i ∉ v.indices) → i ∉ mean.indices) := by
  refine ⟨fun hnil => by rw [hnil]; rfl, fun h => ?_⟩
  obtain ⟨mean, hmean, htidy, -⟩ := mean?_guarantees h
  have hmem : ∀ i x, (i, x) ∈ mean.coordinates ↔ x = meanAt vectors i ∧ (x != 0.0) = true := by
    intro i x
    rw [mem_coordinates_mean_iff h hmean, sumAt_div_eq_meanAt hordered]
  have hmeanOrdered : mean.Ordered := ⟨htidy.balanced, htidy.increasing⟩
  refine ⟨mean, by rw [meanOf, hmean], htidy, hmem, fun i => ?_, fun i hi hstored => ?_⟩
  · refine hmeanOrdered.get?_eq_asRead fun x => (hmem i x).trans ?_
    exact and_congr_right fun hx => by rw [hx]
  · obtain ⟨x, hx⟩ := hmeanOrdered.mem_indices_iff.mp hstored
    obtain ⟨rfl, hnonzero⟩ := (hmem i x).mp hx
    rw [meanAt_of_not_stored h hordered hi] at hnonzero
    cases hnonzero

/-- At the index `2` the values cancel, and the index `9` is stored nowhere. -/
theorem meanOf_coordinatewise_cancelling :
    let vectors : List SparseVector :=
      [⟨[2, 5], [1.0, 4.0]⟩, ⟨[0, 2], [6.0, -3.0]⟩, ⟨[2, 5], [2.0, 0.5]⟩]
    (∀ v ∈ vectors, v.Ordered) ∧ vectors ≠ [] ∧ (∀ v ∈ vectors, (9 : UInt32) ∉ v.indices) ∧
      ∃ mean, meanOf vectors = .ok mean ∧ mean.coordinates = [(0, 2.0), (5, 1.5)] ∧
        mean.get? 2 = some 0.0 ∧ mean.get? 5 = some 1.5 ∧ 9 ∉ mean.indices := by
  intro vectors
  have hordered : ∀ v ∈ vectors, v.Ordered := by decide
  have hne : vectors ≠ [] := List.cons_ne_nil _ _
  have hstored : ∀ v ∈ vectors, (9 : UInt32) ∉ v.indices := by decide
  obtain ⟨mean, hmean, -, -, hget, hnot⟩ := (meanOf_coordinatewise hordered).2 hne
  have hvalue : mean? vectors = some ⟨[0, 5], [2.0, 1.5]⟩ := by decide +kernel
  have hcoordinates : mean.coordinates = [(0, 2.0), (5, 1.5)] := by
    rw [meanOf, hvalue] at hmean
    obtain rfl := Except.ok.inj hmean
    rfl
  refine ⟨hordered, hne, hstored, mean, hmean, hcoordinates, ?_, ?_, hnot 9 hstored⟩
  · rw [hget, show asRead (meanAt vectors 2) = 0.0 by decide +kernel]
  · rw [hget, show asRead (meanAt vectors 5) = 1.5 by decide +kernel]

end SampledKmeans.SparseVector
