import SampledKmeans.Proofs.Procedure.Overlap
import SampledKmeans.Proofs.Refinement.Run

/-!
# Refinements whose means may overlap without a difference

The order in which the means of an iteration take effect can show in two ways: in the
state of the store, and in which of several failures is reported.  It shows in neither
where means have no part in the state of the store and fail in one way only
(`PointStore.SettlesMeans`), so that a refinement of such a store with overlapping means
is the one without (`Limits.refineWith_eq_refine`).
-/

namespace SampledKmeans

open MonadExcept Procedure

variable {σ ρ : Type} {store : PointStore σ ρ} {failure : Failure}
  {mean : List SparseVector → Except Failure SparseVector}

namespace PointStore

/-- The means of a store neither depend on its state nor change it, and all that there
is something to average for fail alike, if they do. -/
structure SettlesMeans (store : PointStore σ ρ)
    (mean : List SparseVector → Except Failure SparseVector) (failure : Failure) : Prop where
  askMean_eq : ∀ positions, store.askMean positions = ofExcept (mean positions)
  alike : ∀ positions ≠ [], ∀ other, mean positions = .error other → other = failure

/-- A centroid after its cluster was averaged by a function. -/
def recentered (mean : List SparseVector → Except Failure SparseVector) (points : List Point)
    (labels : List Nat) (centroid : Centroid) : Except Failure Centroid :=
  if membersOf points labels centroid.id = [] then .ok centroid
  else (mean (membersOf points labels centroid.id)).map fun position => { centroid with position }

theorem SettlesMeans.recenter_eq (h : store.SettlesMeans mean failure) (points : List Point)
    (labels : List Nat) (centroid : Centroid) :
    store.recenter points labels centroid = ofExcept (recentered mean points labels centroid) := by
  rw [PointStore.recenter_eq, recentered]
  split_ifs
  · rfl
  · rw [h.askMean_eq]
    cases mean (membersOf points labels centroid.id) <;> rfl

theorem SettlesMeans.alike_recentered (h : store.SettlesMeans mean failure) {points : List Point}
    {labels : List Nat} {centroid : Centroid} {other : Failure}
    (hother : recentered mean points labels centroid = .error other) : other = failure := by
  unfold recentered at hother
  split_ifs at hother with hmembers
  cases hmean : mean (membersOf points labels centroid.id) with
  | ok position => simp [hmean, Except.map] at hother
  | error cause =>
      obtain rfl : cause = other := by simpa [hmean, Except.map] using hother
      exact h.alike _ hmembers cause hmean

theorem SettlesMeans.mapOverlapping_recenter (h : store.SettlesMeans mean failure)
    (overlap : Overlap) (points : List Point) (labels : List Nat) (centroids : List Centroid) :
    mapOverlapping overlap (store.recenter points labels) centroids =
      centroids.mapM (store.recenter points labels) := by
  rw [funext (h.recenter_eq points labels)]
  exact mapOverlapping_ofExcept (fun _ _ _ => h.alike_recentered) overlap

end PointStore

variable {limits : Limits} {stop : StopSignal σ} {working : List Point}

theorem Progress.advanceWith_eq_advance (h : store.SettlesMeans mean failure) (overlaps : Overlaps)
    (progress : Progress) :
    progress.advanceWith store overlaps working = progress.advance store working := by
  unfold advance advanceWith
  simp only [h.mapOverlapping_recenter]

namespace Limits

theorem iterateWith_eq_iterate (h : store.SettlesMeans mean failure) (overlaps : Overlaps)
    (remaining : Nat) (progress : Progress) :
    limits.iterateWith store overlaps stop working remaining progress =
      limits.iterate store stop working remaining progress := by
  induction remaining generalizing progress with
  | zero => rfl
  | succ remaining ih =>
      unfold iterate iterateWith
      simp only [Progress.advanceWith_eq_advance h overlaps, ih]

/-- Where means are settled, it makes no difference which of them overlap. -/
theorem refineWith_eq_refine (h : store.SettlesMeans mean failure) (overlaps : Overlaps)
    (seeds : List Centroid) :
    limits.refineWith store overlaps stop working seeds =
      limits.refine store stop working seeds := by
  unfold refine refineWith
  simp only [iterateWith_eq_iterate h overlaps]

end Limits

end SampledKmeans
