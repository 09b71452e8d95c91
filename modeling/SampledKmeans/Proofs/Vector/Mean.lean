import SampledKmeans.Proofs.Number.Finite
import SampledKmeans.Proofs.Vector.Gaps

/-!
# Means and the guarantees of the constructors

A mean is put together from sums without being checked.  The sums are kept in the
order of their indices (`ascending_sums`), and the sum at an index is that of the
values at this index, from left to right (`sumIn_sums`).  So the indices of a mean
increase and none of its values is zero, whatever the vectors are.

Its values need not be finite, since finite numbers may add up to infinity.  A mean
passes the checks exactly when the sums at all indices are finite
(`mean?_guarantees`), which is so in particular when all values lie within
`Number.overflowStep` (`isFinite_sumAt`).
-/

namespace SampledKmeans.SparseVector

/-! ## Tidy vectors -/

/-- What the checked constructors guarantee, except that values are finite. -/
structure Tidy (v : SparseVector) : Prop where
  balanced : v.Balanced
  increasing : v.indices.Pairwise (· < ·)
  nonzero : ∀ x ∈ v.values, (x != 0.0) = true

theorem Valid.tidy {v : SparseVector} (h : v.Valid) : v.Tidy :=
  ⟨h.balanced, h.increasing, h.nonzero⟩

instance (v : SparseVector) : Decidable v.Valid :=
  decidable_of_iff (v.indices.length = v.values.length ∧ v.indices.Pairwise (· < ·) ∧
      (∀ x ∈ v.values, x.isFinite = true) ∧ ∀ x ∈ v.values, (x != 0.0) = true)
    ⟨fun ⟨balanced, increasing, finite, nonzero⟩ => { balanced, increasing, finite, nonzero },
      fun h => ⟨h.balanced, h.increasing, h.finite, h.nonzero⟩⟩

theorem increasing_iff {indices : List UInt32} :
    increasing indices = true ↔ indices.Pairwise (· < ·) := by
  induction indices with
  | nil => exact iff_of_true rfl .nil
  | cons i rest ih =>
      cases rest with
      | nil => exact iff_of_true rfl (List.pairwise_singleton _ _)
      | cons j rest =>
          rw [increasing, Bool.and_eq_true, decide_eq_true_iff, ih,
            List.pairwise_cons (a := i)]
          constructor
          · rintro ⟨hlt, hrest⟩
            refine ⟨List.forall_mem_cons.mpr ⟨hlt, fun k hk => ?_⟩, hrest⟩
            exact UInt32.lt_trans hlt ((List.pairwise_cons.mp hrest).1 k hk)
          · rintro ⟨hall, hrest⟩
            exact ⟨hall j List.mem_cons_self, hrest⟩

theorem tidy_ofCoordinates_filter {coordinates : List (UInt32 × Float)}
    (h : Ascending coordinates) : (ofCoordinates (coordinates.filter isStored)).Tidy where
  balanced := balanced_ofCoordinates _
  increasing := List.pairwise_map.mpr (h.filter _)
  nonzero := by
    rw [ofCoordinates, List.forall_mem_map]
    exact fun c hc => (List.mem_filter.mp hc).2

/-- A tidy vector keeps every coordinate when its zeros are dropped. -/
theorem Tidy.ofCoordinates_filter {v : SparseVector} (h : v.Tidy) :
    ofCoordinates (v.coordinates.filter isStored) = v := by
  have hall : v.coordinates.filter isStored = v.coordinates :=
    List.filter_eq_self.mpr fun c hc => h.nonzero c.2 (List.of_mem_zip hc).2
  rw [hall, ofCoordinates, coordinates, List.map_fst_zip h.balanced.le,
    List.map_snd_zip h.balanced.ge]

/-- A tidy vector passes the checks of the constructors, unchanged, when its values are
finite. -/
theorem Tidy.ofLists_eq_ok_iff {v : SparseVector} (h : v.Tidy) :
    ofLists v.indices v.values = .ok v ↔ ∀ x ∈ v.values, x.isFinite = true := by
  have hlength : v.indices.length = v.values.length := h.balanced
  rw [ofLists, if_neg (not_not.mpr hlength), if_neg (by simp [increasing_iff.mpr h.increasing])]
  constructor
  · intro hok
    split at hok
    · cases hok
    · rename_i hfind
      simpa using List.find?_eq_none.mp hfind
  · intro hfinite
    rw [List.find?_eq_none.mpr (by simpa using hfinite)]
    exact congrArg Except.ok h.ofCoordinates_filter

/-! ## Sums in the order of their indices -/

/-- The sum that is kept at an index: zero when there is none. -/
def sumIn (sums : List (UInt32 × Float)) (i : UInt32) : Float :=
  (sums.lookup i).getD 0.0

/-- Adds coordinates to the sums, one after another. -/
def addAll (sums coordinates : List (UInt32 × Float)) : List (UInt32 × Float) :=
  coordinates.foldl (fun sums c => addAt c.1 c.2 sums) sums

variable {sums : List (UInt32 × Float)}

theorem lt_of_mem_addAt {low i : UInt32} (x : Float) (hi : low < i) (h : ∀ c ∈ sums, low < c.1) :
    ∀ c ∈ addAt i x sums, low < c.1 := by
  induction sums with
  | nil => exact List.forall_mem_singleton.mpr hi
  | cons c sums ih =>
      obtain ⟨hc, hsums⟩ := List.forall_mem_cons.mp h
      rw [addAt]
      split_ifs
      · exact List.forall_mem_cons.mpr ⟨hi, h⟩
      · exact List.forall_mem_cons.mpr ⟨hc, hsums⟩
      · exact List.forall_mem_cons.mpr ⟨hc, ih hsums⟩

theorem ascending_addAt (i : UInt32) (x : Float) (h : Ascending sums) :
    Ascending (addAt i x sums) := by
  induction sums with
  | nil => exact List.pairwise_singleton _ _
  | cons c sums ih =>
      obtain ⟨hlt, hsums⟩ := List.pairwise_cons.mp h
      rw [addAt]
      split_ifs with hbefore heq
      · refine List.pairwise_cons.mpr ⟨List.forall_mem_cons.mpr ⟨hbefore, ?_⟩, h⟩
        exact fun c' hc' => UInt32.lt_trans hbefore (hlt c' hc')
      · exact List.pairwise_cons.mpr ⟨hlt, hsums⟩
      · have hafter : c.1 < i := UInt32.lt_of_le_of_ne (UInt32.not_lt.mp hbefore) (Ne.symm heq)
        exact List.pairwise_cons.mpr ⟨lt_of_mem_addAt x hafter hlt, ih hsums⟩

theorem sumIn_cons (c : UInt32 × Float) (sums : List (UInt32 × Float)) (k : UInt32) :
    sumIn (c :: sums) k = if k = c.1 then c.2 else sumIn sums k := by
  unfold sumIn
  split_ifs with h
  · rw [h, List.lookup_cons_self, Option.getD_some]
  · rw [lookup_cons_of_ne h]

theorem sumIn_eq_zero_of_lt {k : UInt32} (h : ∀ c ∈ sums, k < c.1) : sumIn sums k = 0.0 := by
  rw [sumIn, lookup_eq_none_of_lt h, Option.getD_none]

/-- A value goes into the sum at its own index. -/
theorem sumIn_addAt (i : UInt32) (x : Float) (h : Ascending sums) (k : UInt32) :
    sumIn (addAt i x sums) k = if k = i then sumIn sums k + x else sumIn sums k := by
  induction sums with
  | nil => exact sumIn_cons _ _ _
  | cons c sums ih =>
      obtain ⟨hlt, hsums⟩ := List.pairwise_cons.mp h
      rw [addAt]
      by_cases hbefore : i < c.1
      · rw [if_pos hbefore, sumIn_cons]
        by_cases hk : k = i
        · have hall : ∀ c' ∈ c :: sums, i < c'.1 :=
            List.forall_mem_cons.mpr ⟨hbefore, fun c' hc' => UInt32.lt_trans hbefore (hlt c' hc')⟩
          rw [if_pos hk, if_pos hk, hk, sumIn_eq_zero_of_lt hall]
        · rw [if_neg hk, if_neg hk]
      by_cases heq : i = c.1
      · rw [if_neg hbefore, if_pos heq, sumIn_cons, sumIn_cons, heq]
        by_cases hk : k = c.1
        · rw [if_pos hk, if_pos hk, if_pos hk]
        · rw [if_neg hk, if_neg hk, if_neg hk]
      · rw [if_neg hbefore, if_neg heq, sumIn_cons, sumIn_cons, ih hsums]
        by_cases hk : k = c.1
        · have hne : k ≠ i := fun hki => heq (hki.symm.trans hk)
          rw [if_pos hk, if_pos hk, if_neg hne]
        · rw [if_neg hk, if_neg hk]

theorem ascending_addAll (coordinates : List (UInt32 × Float)) (h : Ascending sums) :
    Ascending (addAll sums coordinates) := by
  induction coordinates generalizing sums with
  | nil => exact h
  | cons c coordinates ih => exact ih (ascending_addAt c.1 c.2 h)

theorem sumIn_addAll (coordinates : List (UInt32 × Float)) (h : Ascending sums) (k : UInt32) :
    sumIn (addAll sums coordinates) k =
      ((coordinates.filter fun c => k = c.1).map Prod.snd).foldl (· + ·) (sumIn sums k) := by
  induction coordinates generalizing sums with
  | nil => rfl
  | cons c coordinates ih =>
      change sumIn (addAll (addAt c.1 c.2 sums) coordinates) k = _
      rw [ih (ascending_addAt c.1 c.2 h), sumIn_addAt c.1 c.2 h, List.filter_cons]
      by_cases hk : k = c.1
      · rw [if_pos hk, if_pos (decide_eq_true hk), List.map_cons, List.foldl_cons]
      · rw [if_neg hk, if_neg (by simpa using hk)]

/-- The sum that is kept at each of the indices is finite when the sum at every index
is, kept or not. -/
theorem forall_isFinite_iff (h : Ascending sums) :
    (∀ c ∈ sums, c.2.isFinite = true) ↔ ∀ k, (sumIn sums k).isFinite = true := by
  induction sums with
  | nil =>
      refine iff_of_true (by simp) fun k => ?_
      rw [sumIn_eq_zero_of_lt (by simp)]
      rfl
  | cons c sums ih =>
      obtain ⟨hlt, hsums⟩ := List.pairwise_cons.mp h
      rw [List.forall_mem_cons, ih hsums]
      constructor
      · rintro ⟨hc, hrest⟩ k
        rw [sumIn_cons]
        split_ifs
        · exact hc
        · exact hrest k
      · intro hall
        have hc := hall c.1
        rw [sumIn_cons, if_pos rfl] at hc
        refine ⟨hc, fun k => ?_⟩
        by_cases hk : k = c.1
        · rw [hk, sumIn_eq_zero_of_lt hlt]
          rfl
        · have hrest := hall k
          rwa [sumIn_cons, if_neg hk] at hrest

/-! ## Sums of vectors -/

variable {vectors : List SparseVector}

/-- The values at an index, in the order of the vectors. -/
def valuesAt (vectors : List SparseVector) (i : UInt32) : List Float :=
  ((vectors.flatMap coordinates).filter fun c => i = c.1).map Prod.snd

/-- The sum of the values at an index, from left to right. -/
def sumAt (vectors : List SparseVector) (i : UInt32) : Float :=
  (valuesAt vectors i).foldl (· + ·) 0.0

theorem foldl_addTo (vectors : List SparseVector) (sums : List (UInt32 × Float)) :
    vectors.foldl addTo sums = addAll sums (vectors.flatMap coordinates) := by
  rw [addAll, List.foldl_flatMap]
  rfl

theorem ascending_sums (vectors : List SparseVector) : Ascending (vectors.foldl addTo []) := by
  rw [foldl_addTo]
  exact ascending_addAll _ List.Pairwise.nil

theorem sumIn_sums (vectors : List SparseVector) (i : UInt32) :
    sumIn (vectors.foldl addTo []) i = sumAt vectors i := by
  rw [foldl_addTo, sumIn_addAll _ List.Pairwise.nil]
  rfl

theorem mem_values_of_mem_valuesAt {i : UInt32} {x : Float} (h : x ∈ valuesAt vectors i) :
    ∃ v ∈ vectors, x ∈ v.values := by
  obtain ⟨c, hc, rfl⟩ := List.mem_map.mp h
  obtain ⟨v, hv, hcoordinate⟩ := List.mem_flatMap.mp (List.mem_of_mem_filter hc)
  exact ⟨v, hv, (List.of_mem_zip hcoordinate).2⟩

/-- Values within the step have finite sums, however many vectors there are. -/
theorem isFinite_sumAt
    (h : ∀ v ∈ vectors, ∀ x ∈ v.values, -Number.overflowStep < x ∧ x < Number.overflowStep)
    (i : UInt32) : (sumAt vectors i).isFinite = true := by
  refine Number.isFinite_sum (fun x hx => ?_) rfl
  obtain ⟨v, hv, hvalue⟩ := mem_values_of_mem_valuesAt hx
  exact h v hv x hvalue

/-! ## Means -/

/-- The coordinates of a mean: the sums divided by a count, zeros among them. -/
def quotients (vectors : List SparseVector) (count : Float) : List (UInt32 × Float) :=
  (vectors.foldl addTo []).map fun c => (c.1, c.2 / count)

theorem mean?_eq (h : vectors ≠ []) :
    mean? vectors =
      some (ofCoordinates ((quotients vectors (Float.ofNat vectors.length)).filter isStored)) :=
  if_neg (by simpa using h)

theorem ascending_quotients (vectors : List SparseVector) (count : Float) :
    Ascending (quotients vectors count) :=
  List.pairwise_map.mpr (ascending_sums vectors)

theorem isFinite_quotients_iff (h : vectors ≠ []) :
    (∀ c ∈ quotients vectors (Float.ofNat vectors.length), c.2.isFinite = true) ↔
      ∀ i, (sumAt vectors i).isFinite = true := by
  have hpos : 0 < vectors.length := List.length_pos_iff.mpr h
  simp only [← sumIn_sums, ← forall_isFinite_iff (ascending_sums vectors), quotients,
    List.forall_mem_map, Number.isFinite_div_count hpos]

/-- A mean is tidy, whatever the vectors are, and passes the checks of the constructors
when all sums are finite. -/
theorem mean?_guarantees (h : vectors ≠ []) :
    ∃ mean, mean? vectors = some mean ∧ mean.Tidy ∧
      (ofLists mean.indices mean.values = .ok mean ↔
        ∀ i, (sumAt vectors i).isFinite = true) := by
  have htidy := tidy_ofCoordinates_filter
    (ascending_quotients vectors (Float.ofNat vectors.length))
  refine ⟨_, mean?_eq h, htidy, ?_⟩
  rw [htidy.ofLists_eq_ok_iff, ← isFinite_quotients_iff h, ofCoordinates, List.forall_mem_map]
  constructor
  · -- A coordinate that is not stored is zero, and so finite.
    intro hstored c hc
    by_cases hnonzero : isStored c = true
    · exact hstored c (List.mem_filter.mpr ⟨hc, hnonzero⟩)
    · exact Number.isFinite_of_beq_zero (by simpa [isStored, bne] using hnonzero)
  · exact fun hall c hc => hall c (List.mem_of_mem_filter hc)

end SampledKmeans.SparseVector
