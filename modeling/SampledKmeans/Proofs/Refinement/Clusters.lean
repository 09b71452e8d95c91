import SampledKmeans.Refinement.Clusters
import SampledKmeans.Proofs.Nearest

/-!
# Clusters of labelled points

Labels in range can be counted, and the members of a cluster are the positions
of the points with its label, none lost, none twice, in the order of the points
(`membersOf_eq`).  Recentering asks for one mean for each cluster that has
members and for nothing else (`answers_recenter_iff`, `fails_recenter_iff`).
-/

namespace SampledKmeans

/-! ## Labels -/

@[simp] theorem mem_clusterLabels {k label : Nat} :
    label ∈ clusterLabels k ↔ 1 ≤ label ∧ label ≤ k := by
  rw [clusterLabels, List.mem_range'_1]
  omega

theorem clusterLabels_pairwise (k : Nat) : (clusterLabels k).Pairwise (· < ·) :=
  List.pairwise_lt_range'

theorem getElem?_clusterLabels {k label : Nat} (h : label ∈ clusterLabels k) :
    (clusterLabels k)[label - 1]? = some label := by
  rw [mem_clusterLabels] at h
  rw [clusterLabels, List.getElem?_range' (by omega)]
  exact congrArg some (by omega)

/-- Lists of `k` elements are equal when they agree at every label. -/
theorem eq_of_getElem?_clusterLabels {α : Type} {first second : List α} {k : Nat}
    (hfirst : first.length = k) (hsecond : second.length = k)
    (h : ∀ id ∈ clusterLabels k, first[id - 1]? = second[id - 1]?) : first = second := by
  refine List.ext_getElem? fun i => ?_
  by_cases hi : i < k
  · have hget := h (i + 1) (mem_clusterLabels.mpr (by omega))
    rwa [Nat.add_sub_cancel] at hget
  · rw [List.getElem?_eq_none (by omega), List.getElem?_eq_none (by omega)]

theorem labelCounts?_eq_some {labels : List Nat} {k : Nat}
    (h : ∀ label ∈ labels, label ∈ clusterLabels k) :
    labelCounts? labels k = some ((clusterLabels k).map fun label => labels.count label) := by
  refine if_pos (List.all_eq_true.mpr fun label hlabel => ?_)
  simpa using h label hlabel

/-! ## Members -/

/-- The positions of the points with a label, one for each index at which the
label stands, in the order of the indices. -/
def labelledPositions (points : List Point) (labels : List Nat) (label : Nat) :
    List SparseVector :=
  ((List.finRange points.length).filter fun j => labels[j]? = some label).map
    fun j => points[j].position

theorem labelledPositions_cons (p : Point) (points : List Point) (l : Nat) (labels : List Nat)
    (label : Nat) :
    labelledPositions (p :: points) (l :: labels) label =
      (if l = label then [p.position] else []) ++ labelledPositions points labels label := by
  have hrange : List.finRange (p :: points).length =
      ⟨0, Nat.zero_lt_succ _⟩ :: (List.finRange points.length).map Fin.succ :=
    List.finRange_succ
  unfold labelledPositions
  rw [hrange, List.filter_cons, List.filter_map]
  by_cases h : l = label <;> simp [h, Function.comp_def]

theorem membersOf_eq (points : List Point) (labels : List Nat) (label : Nat) :
    membersOf points labels label = labelledPositions points labels label := by
  induction points generalizing labels with
  | nil => rfl
  | cons p points ih =>
      cases labels with
      | nil => simp [membersOf, labelledPositions]
      | cons l labels =>
          rw [labelledPositions_cons, ← ih]
          by_cases h : l = label <;> simp [membersOf, h]

theorem membersOf_eq_nil_iff {points : List Point} {labels : List Nat} {label : Nat}
    (hlength : labels.length = points.length) :
    membersOf points labels label = [] ↔ label ∉ labels := by
  rw [membersOf_eq, labelledPositions, List.map_eq_nil_iff, List.filter_eq_nil_iff,
    List.mem_iff_getElem?, not_exists]
  constructor
  · intro h j hj
    obtain ⟨hlt, -⟩ := List.getElem?_eq_some_iff.mp hj
    exact h ⟨j, hlength ▸ hlt⟩ (List.mem_finRange _) (decide_eq_true hj)
  · intro h j _ hj
    exact h j (of_decide_eq_true hj)

/-! ## Recentering -/

namespace PointStore

open Procedure

variable {σ ρ : Type} {store : PointStore σ ρ} {points : List Point} {labels : List Nat}
  {centroid next : Centroid} {session after : Session σ ρ} {failure : Failure}

theorem recenter_eq (points : List Point) (labels : List Nat) (centroid : Centroid) :
    store.recenter points labels centroid =
      if membersOf points labels centroid.id = [] then pure centroid
      else do
        let position ← store.askMean (membersOf points labels centroid.id)
        return { centroid with position } := by
  unfold recenter
  split
  · rename_i h
    rw [if_pos h]
  · rename_i h
    rw [if_neg h]

theorem answers_recenter_iff :
    (store.recenter points labels centroid).Answers session next after ↔
      (membersOf points labels centroid.id = [] ∧ next = centroid ∧ after = session) ∨
        (membersOf points labels centroid.id ≠ [] ∧ ∃ position,
          (store.askMean (membersOf points labels centroid.id)).Answers session position after ∧
            next = { centroid with position }) := by
  rw [recenter_eq]
  split_ifs with h
  · simp [h]
  · simp only [answers_bind_iff, answers_pure_iff, h, false_and, false_or, ne_eq,
      not_false_eq_true, true_and]
    constructor
    · rintro ⟨position, between, hmean, rfl, rfl⟩
      exact ⟨position, hmean, rfl⟩
    · rintro ⟨position, hmean, rfl⟩
      exact ⟨position, after, hmean, rfl, rfl⟩

theorem fails_recenter_iff :
    (store.recenter points labels centroid).Fails session failure after ↔
      membersOf points labels centroid.id ≠ [] ∧
        (store.askMean (membersOf points labels centroid.id)).Fails session failure after := by
  rw [recenter_eq]
  split_ifs with h
  · simp [h]
  · simp only [fails_bind_iff, not_fails_pure, and_false, exists_false, or_false, ne_eq, h,
      not_false_eq_true, true_and]

/-- Every centroid of a list is recentered, in its place. -/
theorem exists_recentered {centroids moved : List Centroid}
    (h : (centroids.mapM (store.recenter points labels)).Answers session moved after) {i : Nat}
    (hi : centroids[i]? = some centroid) :
    ∃ next before behind, moved[i]? = some next ∧
      (store.recenter points labels centroid).Answers before next behind := by
  have hforall := forall₂_of_answers_mapM h
  obtain ⟨hlt, rfl⟩ := List.getElem?_eq_some_iff.mp hi
  have hlt' : i < moved.length := hforall.length_eq ▸ hlt
  obtain ⟨before, behind, hrecenter⟩ := hforall.get hlt hlt'
  exact ⟨moved[i], before, behind, List.getElem?_eq_getElem hlt', hrecenter⟩

end PointStore

end SampledKmeans
