import SampledKmeans.Expansion
import SampledKmeans.Proofs.Procedure.Lifting

/-!
# Measuring in a larger state

A distance is no call of a store.  What is put together from distances therefore
lifts from any store to any other with the same metric, whatever their calls do: the
nearest centroid and the least distance, the goodness of fit, and the assignment of
points that were already read.
-/

namespace SampledKmeans

open Procedure

variable {σ τ ρ : Type} {embed : σ → τ} {store : PointStore σ ρ} {lifted : PointStore τ ρ}

namespace PointStore

section Metric

variable (hmetric : lifted.metric = store.metric)
include hmetric

theorem lifts_measure (a b : SparseVector) :
    Lifts embed (store.measure a b) (lifted.measure a b) := by
  unfold measure
  rw [hmetric]
  exact lifts_expect (store.metric a b)

theorem lifts_measureAll (position : SparseVector) (centroids : List Centroid) :
    Lifts embed (store.measureAll position centroids) (lifted.measureAll position centroids) := by
  unfold measureAll
  apply Lifts.mapM
  intro c
  exact (lifts_measure hmetric position c.position).bind fun d => lifts_pure (c.id, d)

theorem lifts_nearest (position : SparseVector) (centroids : List Centroid) :
    Lifts embed (store.nearest position centroids) (lifted.nearest position centroids) :=
  (lifts_measureAll hmetric position centroids).bind fun measured =>
    lifts_pure (nearestOf measured)

theorem lifts_assign (points : List Point) (centroids : List Centroid) :
    Lifts embed (store.assign points centroids) (lifted.assign points centroids) := by
  unfold assign
  apply Lifts.mapM
  intro p
  exact (lifts_nearest hmetric p.position centroids).bind fun found => lifts_pure found.1

theorem lifts_minDistance (position : SparseVector) (centroids : List Centroid) :
    Lifts embed (store.minDistance position centroids)
      (lifted.minDistance position centroids) :=
  (lifts_measureAll hmetric position centroids).bind fun measured =>
    lifts_pure ((measured.map Prod.snd).foldl smaller infiniteDistance)

theorem lifts_distanceTo (centroids : List Centroid) (position : SparseVector) (id : Nat) :
    Lifts embed (store.distanceTo centroids position id)
      (lifted.distanceTo centroids position id) := by
  unfold distanceTo
  cases centroids.find? fun c => c.id == id with
  | some centroid => exact lifts_measure hmetric position centroid.position
  | none => exact lifts_fail _

theorem lifts_goodnessOfFit (assigned : List (SparseVector × Nat)) (centroids : List Centroid) :
    Lifts embed (store.goodnessOfFit assigned centroids)
      (lifted.goodnessOfFit assigned centroids) := by
  unfold goodnessOfFit
  apply Lifts.bind
  · exact Lifts.mapM (fun entry => lifts_distanceTo hmetric centroids entry.1 entry.2) assigned
  · intro distances
    cases (FitSum.ofDistances distances).mean? with
    | some fit => exact lifts_pure fit
    | none => exact lifts_fail .emptyInput

end Metric

end PointStore

namespace Expansion

theorem lifts_assignBlock (hmetric : lifted.metric = store.metric) (centroids : List Centroid)
    (state : Draft) (block : List Point) :
    Lifts embed (assignBlock store centroids state block)
      (assignBlock lifted centroids state block) := by
  unfold assignBlock
  apply Lifts.bind
  · exact Lifts.mapM (fun p => PointStore.lifts_nearest hmetric p.position centroids) block
  · intro nearest
    exact lifts_pure ((block.zip nearest).foldl Draft.add state)

theorem lifts_readBlocks (hmetric : lifted.metric = store.metric) (centroids : List Centroid)
    (items : List (Reply Point)) (pending : List Point) (room : Nat) (state : Draft) :
    Lifts embed (readBlocks store centroids items pending room state)
      (readBlocks lifted centroids items pending room state) := by
  induction items generalizing pending room state with
  | nil => exact lifts_assignBlock hmetric centroids state pending.reverse
  | cons item rest ih =>
      cases room with
      | zero =>
          apply (lifts_assignBlock hmetric centroids state pending.reverse).bind
          intro state
          apply (lifts_check item.outcome).bind
          intro point
          exact ih [point] (blockSize - 1) state
      | succ room =>
          apply (lifts_check item.outcome).bind
          intro point
          exact ih (point :: pending) room state

end Expansion

end SampledKmeans
