import SampledKmeans.Proofs.Nearest
import SampledKmeans.Proofs.Number.Order

/-!
# Positions that coincide with a centroid

A position coincides with one of some centroids when its distance to that one is
at most zero.  The distance to the nearest centroid decides this: it is a number,
whatever the distances are, and it is at most zero exactly when one of them is
(`PointStore.minDistance?_le_zero_iff`).
-/

namespace SampledKmeans

/-! ## The smallest of some numbers -/

theorem isNaN_foldl_smaller {least : Float} (h : least.isNaN = false) (distances : List Float) :
    (distances.foldl smaller least).isNaN = false := by
  induction distances generalizing least with
  | nil => exact h
  | cons d distances ih => exact ih (Number.isNaN_smaller h d)

theorem foldl_smaller_le_iff {least bound : Float} (h : least.isNaN = false)
    (distances : List Float) :
    distances.foldl smaller least ≤ bound ↔ least ≤ bound ∨ ∃ d ∈ distances, d ≤ bound := by
  induction distances generalizing least with
  | nil => simp
  | cons d distances ih =>
      rw [List.foldl_cons, ih (Number.isNaN_smaller h d), Number.smaller_le_iff h, or_assoc]
      simp only [List.mem_cons, exists_eq_or_imp]

namespace PointStore

variable {σ ρ : Type} {store : PointStore σ ρ} {position : SparseVector}
  {centroids : List Centroid} {d : Float}

/-- The position is at a distance of at most zero from one of the centroids. -/
def Coincides (store : PointStore σ ρ) (centroids : List Centroid) (position : SparseVector) :
    Prop :=
  ∃ c ∈ centroids, ∃ d, store.metric position c.position = some d ∧ d ≤ 0.0

/-- The position is at a distance from each of the centroids, and at none of at most
zero. -/
def Apart (store : PointStore σ ρ) (centroids : List Centroid) (position : SparseVector) : Prop :=
  ∀ c ∈ centroids, ∃ d, store.metric position c.position = some d ∧ ¬ d ≤ 0.0

/-- The distance from a position to the nearest of the centroids. -/
def minDistance? (store : PointStore σ ρ) (position : SparseVector) (centroids : List Centroid) :
    Option Float :=
  (store.distances? position centroids).map fun measured =>
    (measured.map Prod.snd).foldl smaller infiniteDistance

theorem minDistance_eq (store : PointStore σ ρ) (position : SparseVector)
    (centroids : List Centroid) :
    store.minDistance position centroids =
      Procedure.expect (store.minDistance? position centroids) := by
  rw [minDistance, measureAll_eq, minDistance?, Procedure.expect_map]

theorem mem_distances_iff {measured : List (Nat × Float)}
    (h : store.distances? position centroids = some measured) :
    d ∈ measured.map Prod.snd ↔ ∃ c ∈ centroids, store.metric position c.position = some d := by
  have hforall := forall₂_iff_mapM_eq_some.mp h
  clear h
  induction hforall with
  | nil => simp
  | cons hc _ ih =>
      obtain ⟨d', hmetric, rfl⟩ := Option.map_eq_some_iff.mp hc
      simp only [List.map_cons, List.mem_cons, exists_eq_or_imp, hmetric, Option.some.injEq, ih]
      rw [eq_comm]

theorem exists_metric_of_minDistance? (h : store.minDistance? position centroids = some d) :
    ∀ c ∈ centroids, ∃ d, store.metric position c.position = some d := by
  obtain ⟨measured, hmeasured, -⟩ := Option.map_eq_some_iff.mp h
  have hforall := forall₂_iff_mapM_eq_some.mp hmeasured
  clear h hmeasured
  induction hforall with
  | nil => simp
  | cons hc _ ih =>
      obtain ⟨d', hmetric, -⟩ := Option.map_eq_some_iff.mp hc
      exact List.forall_mem_cons.mpr ⟨⟨d', hmetric⟩, ih⟩

theorem minDistance?_le_zero_iff (h : store.minDistance? position centroids = some d) :
    d ≤ 0.0 ↔ store.Coincides centroids position := by
  obtain ⟨measured, hmeasured, rfl⟩ := Option.map_eq_some_iff.mp h
  rw [foldl_smaller_le_iff Number.isNaN_infiniteDistance,
    or_iff_right Number.not_infiniteDistance_le_zero]
  constructor
  · rintro ⟨d, hd, hle⟩
    obtain ⟨c, hc, hmetric⟩ := (mem_distances_iff hmeasured).mp hd
    exact ⟨c, hc, d, hmetric, hle⟩
  · rintro ⟨c, hc, d, hmetric, hle⟩
    exact ⟨d, (mem_distances_iff hmeasured).mpr ⟨c, hc, hmetric⟩, hle⟩

theorem apart_of_minDistance? (h : store.minDistance? position centroids = some d)
    (hd : ¬ d ≤ 0.0) : store.Apart centroids position := by
  intro c hc
  obtain ⟨d', hmetric⟩ := exists_metric_of_minDistance? h c hc
  exact ⟨d', hmetric, fun hle => hd ((minDistance?_le_zero_iff h).mpr ⟨c, hc, d', hmetric, hle⟩)⟩

/-- The two tests for a distance above zero agree. -/
theorem zero_lt_minDistance?_iff (h : store.minDistance? position centroids = some d) :
    0.0 < d ↔ ¬ store.Coincides centroids position := by
  have hnan : d.isNaN = false := by
    obtain ⟨measured, -, rfl⟩ := Option.map_eq_some_iff.mp h
    exact isNaN_foldl_smaller Number.isNaN_infiniteDistance _
  rw [← minDistance?_le_zero_iff h]
  exact ⟨fun hlt hle => Number.not_lt_of_le hle hlt,
    fun hnot => Number.lt_of_not_le Number.isNaN_zero hnan hnot⟩

end PointStore

end SampledKmeans
