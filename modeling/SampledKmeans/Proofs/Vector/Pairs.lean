import SampledKmeans.Proofs.Vector.Lookup
import SampledKmeans.Proofs.Vector.Mean

/-!
# Vectors from pairs

Pairs may come in any order.  They are sorted by their indices, and a list has only one
such order when its indices differ (`sortByIndex_eq_of_perm`); when they do not, the
indices do not increase after sorting, and the pairs are refused for that alone
(`ofPairs_of_repeated`).  So the order of the pairs makes no difference at all, neither
to the vector nor to the defect (`ofPairs_faithful`).
-/

namespace SampledKmeans.SparseVector

variable {pairs pairs' : List (UInt32 × Float)}

/-! ## Sorting -/

/-- The first coordinate has no greater index than the second one. -/
abbrev NotAfter (c c' : UInt32 × Float) : Prop :=
  c.1 ≤ c'.1

instance : Std.Total NotAfter :=
  ⟨fun c c' => UInt32.le_total c.1 c'.1⟩

instance : IsTrans (UInt32 × Float) NotAfter :=
  ⟨fun _ _ _ => UInt32.le_trans⟩

theorem insertByIndex_eq (c : UInt32 × Float) (coordinates : List (UInt32 × Float)) :
    insertByIndex c coordinates = coordinates.orderedInsert NotAfter c := by
  induction coordinates with
  | nil => rfl
  | cons c' coordinates ih => rw [insertByIndex, ih, List.orderedInsert_cons]

theorem sortByIndex_eq (pairs : List (UInt32 × Float)) :
    sortByIndex pairs = pairs.insertionSort NotAfter := by
  induction pairs with
  | nil => rfl
  | cons c pairs ih =>
      rw [List.insertionSort_cons, ← ih, ← insertByIndex_eq]
      rfl

theorem perm_sortByIndex (pairs : List (UInt32 × Float)) : (sortByIndex pairs).Perm pairs := by
  rw [sortByIndex_eq]
  exact List.perm_insertionSort NotAfter pairs

theorem pairwise_sortByIndex (pairs : List (UInt32 × Float)) :
    (sortByIndex pairs).Pairwise NotAfter := by
  rw [sortByIndex_eq]
  exact List.pairwise_insertionSort NotAfter pairs

theorem Ascending.nodup {coordinates : List (UInt32 × Float)} (h : Ascending coordinates) :
    (coordinates.map Prod.fst).Nodup :=
  List.pairwise_map.mpr (h.imp UInt32.ne_of_lt)

theorem ascending_sortByIndex_iff :
    Ascending (sortByIndex pairs) ↔ (pairs.map Prod.fst).Nodup := by
  rw [← ((perm_sortByIndex pairs).map Prod.fst).nodup_iff]
  refine ⟨Ascending.nodup, fun hnodup => ?_⟩
  have hdistinct := List.pairwise_map.mp hnodup
  exact (pairwise_sortByIndex pairs).imp₂ (fun _ _ => UInt32.lt_of_le_of_ne) hdistinct

/-- Pairs with different indices have one order. -/
theorem sortByIndex_eq_of_perm (h : pairs.Perm pairs') (hnodup : (pairs.map Prod.fst).Nodup) :
    sortByIndex pairs' = sortByIndex pairs := by
  have hperm : (sortByIndex pairs').Perm (sortByIndex pairs) :=
    (perm_sortByIndex pairs').trans (h.symm.trans (perm_sortByIndex pairs).symm)
  refine hperm.eq_of_pairwise (fun c c' _ _ hlt hgt => absurd hgt (UInt32.lt_asymm hlt))
    (ascending_sortByIndex_iff.mpr ?_) (ascending_sortByIndex_iff.mpr hnodup)
  exact (h.map Prod.fst).nodup_iff.mp hnodup

/-! ## What becomes of pairs -/

theorem ofPairs_of_repeated (h : ¬ (pairs.map Prod.fst).Nodup) :
    ofPairs pairs = .error .order := by
  have hnot : increasing ((sortByIndex pairs).map Prod.fst) = false := by
    rw [← Bool.not_eq_true, increasing_iff, List.pairwise_map]
    exact mt ascending_sortByIndex_iff.mp h
  rw [ofPairs, ofLists, if_neg (by simp), hnot]
  rfl

theorem ofPairs_of_nodup (h : (pairs.map Prod.fst).Nodup) :
    ofPairs pairs =
      match ((sortByIndex pairs).map Prod.snd).find? fun v => !v.isFinite with
      | some v => .error (.notFinite v)
      | none => .ok (ofCoordinates ((sortByIndex pairs).filter isStored)) := by
  have hincreasing : increasing ((sortByIndex pairs).map Prod.fst) = true :=
    increasing_iff.mpr (List.pairwise_map.mpr (ascending_sortByIndex_iff.mpr h))
  have hzip : ((sortByIndex pairs).map Prod.fst).zip ((sortByIndex pairs).map Prod.snd) =
      sortByIndex pairs := coordinates_ofCoordinates _
  rw [ofPairs, ofLists, if_neg (by simp), hincreasing, hzip]
  rfl

theorem find?_notFinite_eq_none_iff :
    ((sortByIndex pairs).map Prod.snd).find? (fun v => !v.isFinite) = none ↔
      ∀ c ∈ pairs, c.2.isFinite = true := by
  rw [List.find?_eq_none, List.forall_mem_map]
  simp only [(perm_sortByIndex pairs).mem_iff, Bool.not_eq_true', Bool.not_eq_false]

theorem ofPairs_of_finite (h : (pairs.map Prod.fst).Nodup)
    (hfinite : ∀ c ∈ pairs, c.2.isFinite = true) :
    ofPairs pairs = .ok (ofCoordinates ((sortByIndex pairs).filter isStored)) := by
  rw [ofPairs_of_nodup h, find?_notFinite_eq_none_iff.mpr hfinite]

theorem ofPairs_eq_ok_iff {v : SparseVector} :
    ofPairs pairs = .ok v ↔
      ((pairs.map Prod.fst).Nodup ∧ ∀ c ∈ pairs, c.2.isFinite = true) ∧
        v = ofCoordinates ((sortByIndex pairs).filter isStored) := by
  constructor
  · intro hok
    by_cases hnodup : (pairs.map Prod.fst).Nodup
    · rw [ofPairs_of_nodup hnodup] at hok
      split at hok
      · cases hok
      · rename_i hnone
        exact ⟨⟨hnodup, find?_notFinite_eq_none_iff.mp hnone⟩, (Except.ok.inj hok).symm⟩
    · rw [ofPairs_of_repeated hnodup] at hok
      cases hok
  · rintro ⟨⟨hnodup, hfinite⟩, rfl⟩
    exact ofPairs_of_finite hnodup hfinite

/-- Of several values that are not finite, the one at the smallest index is named. -/
theorem ofPairs_of_notFinite (h : (pairs.map Prod.fst).Nodup) {c : UInt32 × Float}
    (hc : c ∈ pairs) (hnot : c.2.isFinite = false)
    (hleast : ∀ d ∈ pairs, d.2.isFinite = false → c.1 ≤ d.1) :
    ofPairs pairs = .error (.notFinite c.2) := by
  have hascending := ascending_sortByIndex_iff.mpr h
  obtain ⟨before, after, hsplit⟩ :=
    List.append_of_mem ((perm_sortByIndex pairs).mem_iff.mpr hc)
  have hfind : ((sortByIndex pairs).map Prod.snd).find? (fun v => !v.isFinite) = some c.2 := by
    rw [List.find?_eq_some_iff_append]
    refine ⟨by simp [hnot], before.map Prod.snd, after.map Prod.snd, by simp [hsplit], ?_⟩
    rw [List.forall_mem_map]
    intro d hd
    have hmem : d ∈ pairs := (perm_sortByIndex pairs).mem_iff.mp
      (hsplit ▸ List.mem_append_left _ hd)
    rw [hsplit] at hascending
    have hlt : d.1 < c.1 :=
      (List.pairwise_append.mp hascending).2.2 d hd c List.mem_cons_self
    cases hd' : d.2.isFinite with
    | true => rfl
    | false => exact absurd hlt (UInt32.not_lt.mpr (hleast d hmem hd'))
  rw [ofPairs_of_nodup h, hfind]

/-- The order of the pairs plays no part. -/
theorem ofPairs_eq_of_perm (h : pairs.Perm pairs') : ofPairs pairs' = ofPairs pairs := by
  have hiff := (h.map Prod.fst).nodup_iff
  by_cases hnodup : (pairs.map Prod.fst).Nodup
  · rw [ofPairs_of_nodup hnodup, ofPairs_of_nodup (hiff.mp hnodup),
      sortByIndex_eq_of_perm h hnodup]
  · rw [ofPairs_of_repeated hnodup, ofPairs_of_repeated (mt hiff.mpr hnodup)]

/-! ## The vector of pairs -/

section Accepted

variable {v : SparseVector} (hok : ofPairs pairs = .ok v)

include hok

theorem mem_coordinates_of_ofPairs {c : UInt32 × Float} :
    c ∈ v.coordinates ↔ c ∈ pairs ∧ isStored c = true := by
  obtain ⟨-, rfl⟩ := ofPairs_eq_ok_iff.mp hok
  rw [coordinates_ofCoordinates, List.mem_filter, (perm_sortByIndex pairs).mem_iff]

theorem valid_of_ofPairs : v.Valid := by
  obtain ⟨⟨hnodup, hfinite⟩, rfl⟩ := ofPairs_eq_ok_iff.mp hok
  have htidy := tidy_ofCoordinates_filter (ascending_sortByIndex_iff.mpr hnodup)
  refine ⟨htidy.balanced, htidy.increasing, ?_, htidy.nonzero⟩
  rw [ofCoordinates, List.forall_mem_map]
  intro c hc
  exact hfinite c ((perm_sortByIndex pairs).mem_iff.mp (List.mem_of_mem_filter hc))

theorem storedCount_of_ofPairs : v.storedCount = pairs.countP isStored := by
  obtain ⟨-, rfl⟩ := ofPairs_eq_ok_iff.mp hok
  rw [storedCount, ofCoordinates, List.length_map, ← List.countP_eq_length_filter,
    (perm_sortByIndex pairs).countP_eq]

theorem get?_of_ofPairs {c : UInt32 × Float} (hc : c ∈ pairs) :
    v.get? c.1 = some (asRead c.2) := by
  have hnodup := (ofPairs_eq_ok_iff.mp hok).1.1
  refine (valid_of_ofPairs hok).ordered.get?_eq_asRead fun y => ?_
  rw [mem_coordinates_of_ofPairs hok]
  constructor
  · rintro ⟨hy, hstored⟩
    have heq : (c.1, y) = c := List.inj_on_of_nodup_map hnodup hy hc rfl
    rw [← heq]
    exact ⟨rfl, hstored⟩
  · rintro ⟨rfl, hnonzero⟩
    exact ⟨hc, hnonzero⟩

theorem get?_of_ofPairs_of_not_mem {i : UInt32} (hi : i ∉ pairs.map Prod.fst) :
    v.get? i = some 0.0 := by
  have hordered := (valid_of_ofPairs hok).ordered
  refine hordered.get?_of_not_mem fun hmem => ?_
  obtain ⟨x, hx⟩ := hordered.mem_indices_iff.mp hmem
  exact hi (List.mem_map_of_mem ((mem_coordinates_of_ofPairs hok).mp hx).1)

end Accepted

/-- Pairs make a vector exactly when their indices differ and their values are finite.
The vector holds those that are not zero, and is read accordingly.  Otherwise repeated
indices are the defect, or else the value that is not finite at the smallest index.  The
order of the pairs makes no difference. -/
theorem ofPairs_faithful (pairs : List (UInt32 × Float)) :
    ((∃ v, ofPairs pairs = .ok v) ↔
        (pairs.map Prod.fst).Nodup ∧ ∀ c ∈ pairs, c.2.isFinite = true) ∧
      (∀ v, ofPairs pairs = .ok v →
        v.Valid ∧ v.storedCount = pairs.countP isStored ∧
          (∀ c ∈ pairs, v.get? c.1 = some (asRead c.2)) ∧
          ∀ i, i ∉ pairs.map Prod.fst → v.get? i = some 0.0) ∧
      (¬ (pairs.map Prod.fst).Nodup → ofPairs pairs = .error .order) ∧
      ((pairs.map Prod.fst).Nodup → ∀ c ∈ pairs, c.2.isFinite = false →
        (∀ d ∈ pairs, d.2.isFinite = false → c.1 ≤ d.1) →
          ofPairs pairs = .error (.notFinite c.2)) ∧
      ∀ pairs', pairs.Perm pairs' → ofPairs pairs' = ofPairs pairs := by
  refine ⟨⟨?_, ?_⟩, ?_, ofPairs_of_repeated, ?_, fun _ => ofPairs_eq_of_perm⟩
  · rintro ⟨v, hok⟩
    exact (ofPairs_eq_ok_iff.mp hok).1
  · rintro ⟨hnodup, hfinite⟩
    exact ⟨_, ofPairs_of_finite hnodup hfinite⟩
  · intro v hok
    exact ⟨valid_of_ofPairs hok, storedCount_of_ofPairs hok, fun c => get?_of_ofPairs hok,
      fun i => get?_of_ofPairs_of_not_mem hok⟩
  · intro hnodup c hc hnot hleast
    exact ofPairs_of_notFinite hnodup hc hnot hleast

/-- A zero at the index `4` is not stored, but counts when it is given twice, even before
an infinite value.  Of two infinite values the one at the index `2` is named. -/
theorem ofPairs_faithful_defects :
    let pairs : List (UInt32 × Float) := [(9, 2.0), (4, -0.0), (0, -1.5)]
    let repeated : List (UInt32 × Float) := [(4, 0.0), (0, infiniteDistance), (4, 0.0)]
    let infinite : List (UInt32 × Float) :=
      [(7, infiniteDistance), (2, -infiniteDistance), (5, 1.0)]
    (∃ v, ofPairs pairs = .ok v ∧ v.Valid ∧ v.storedCount = 2 ∧ v.get? 9 = some 2.0 ∧
        v.get? 4 = some 0.0 ∧ v.get? 7 = some 0.0) ∧
      ofPairs [(4, -0.0), (0, -1.5), (9, 2.0)] = ofPairs pairs ∧
      ofPairs repeated = .error .order ∧
      ofPairs infinite = .error (.notFinite (-infiniteDistance)) := by
  intro pairs repeated infinite
  obtain ⟨hiff, hvector, -, -, hperm⟩ := ofPairs_faithful pairs
  obtain ⟨v, hok⟩ := hiff.mpr (by decide +kernel)
  obtain ⟨hvalid, hcount, hget, habsent⟩ := hvector v hok
  refine ⟨⟨v, hok, hvalid, hcount.trans (by decide +kernel), hget (9, 2.0) (by simp [pairs]),
    (hget (4, -0.0) (by simp [pairs])).trans (by decide +kernel),
    habsent 7 (by decide +kernel)⟩, hperm _ (by decide +kernel), ?_, ?_⟩
  · exact (ofPairs_faithful repeated).2.2.1 (by decide +kernel)
  · exact (ofPairs_faithful infinite).2.2.2.1 (by decide +kernel) (2, -infiniteDistance)
      (by simp [infinite]) (by decide +kernel) (by decide +kernel)

end SampledKmeans.SparseVector
