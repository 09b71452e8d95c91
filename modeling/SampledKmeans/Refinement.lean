import SampledKmeans.Overlap
import SampledKmeans.Refinement.Clusters
import SampledKmeans.Store.Recorded

/-!
# Refinement

Centroids are refined in iterations.  In each, every point of the working set is
assigned to its nearest centroid, each centroid moves to the mean of its
points, and from the second iteration on the change of the cluster counts is
measured.  A centroid without points keeps its position.

`Progress` is the state between iterations and `Progress.advance` is one
iteration; an iteration that fails leaves its state behind untouched, which is
what the checkpoint of the failure shows.  The first iteration always runs, so
that a cancelled refinement still has an assignment.

The means of one iteration may be asked for at the same time.  `advanceWith` and
its kin take what overlaps as an argument, an `Overlap` for each iteration:
whatever parallel means can come to is one of the choices.  Without the argument
nothing overlaps, and the means are asked for one after another, in the order of
the centroids, as in a build without parallelism.
-/

namespace SampledKmeans

/-- Whether the caller asks to stop: a function of the number of completed
iterations and of the state of the store. -/
abbrev StopSignal (σ : Type) := Nat → σ → Bool

/-- The signal of a caller who never asks to stop. -/
def StopSignal.never {σ : Type} : StopSignal σ := fun _ _ => false

/-- The signal of a caller who has asked to stop from the start. -/
def StopSignal.raised {σ : Type} : StopSignal σ := fun _ _ => true

/-- The signal for a store whose calls are recorded. -/
def StopSignal.recorded {σ : Type} (stop : StopSignal σ) : StopSignal (Recorded σ) :=
  fun iterations recorded => stop iterations recorded.state

/-- When to stop refining. -/
structure Limits where
  /-- The number of iterations that are allowed. -/
  maxIterations : Nat := 20
  /-- The change fraction below which refinement stops. -/
  changeLimit : Float := 0.001

/-- The state of a refinement between two iterations. -/
structure Progress where
  /-- Completed iterations. -/
  iterations : Nat
  centroids : List Centroid
  /-- The centroid of each working point in the last iteration. -/
  labels : List Nat
  /-- The cluster counts of the last iteration, if there was one. -/
  counts : Option (List Nat)
  /-- The change fractions from the second iteration on. -/
  changeTrace : List Float
  /-- The identifiers of the centroids without points in the last iteration. -/
  dead : List Nat
  deriving DecidableEq, Repr

/-- The outcome of a refinement. -/
structure Refinement where
  centroids : List Centroid
  /-- The centroid of each working point in the last iteration. -/
  labels : List Nat
  /-- Completed iterations. -/
  iterations : Nat
  /-- Why refinement stopped. -/
  reason : StopReason
  /-- The change fractions from the second iteration on. -/
  changeTrace : List Float
  /-- The identifiers of the centroids without points in the last iteration. -/
  dead : List Nat
  deriving DecidableEq, Repr

/-- The final state for use in a later failure. -/
def Refinement.checkpoint (refinement : Refinement) : Checkpoint where
  iteration := refinement.iterations
  positions := refinement.centroids.map Centroid.position
  changeTrace := refinement.changeTrace

namespace Progress

/-- The state before the first iteration. -/
def start (seeds : List Centroid) : Progress where
  iterations := 0
  centroids := seeds
  labels := []
  counts := none
  changeTrace := []
  dead := []

/-- What a failure of the next iteration shows. -/
def checkpoint (progress : Progress) : Checkpoint where
  iteration := progress.iterations
  positions := progress.centroids.map Centroid.position
  changeTrace := progress.changeTrace

/-- The state after an iteration with the given centroids, labels and
counts. -/
def record (progress : Progress) (total : Nat) (centroids : List Centroid) (labels : List Nat)
    (counts : List Nat) : Progress where
  iterations := progress.iterations + 1
  centroids := centroids
  labels := labels
  counts := some counts
  changeTrace := match progress.counts with
    | some before => progress.changeTrace ++ [changeFraction before counts total]
    | none => progress.changeTrace
  dead := deadIds labels progress.centroids

/-- The outcome of a refinement that stops in this state. -/
def finish (progress : Progress) (reason : StopReason) : Refinement where
  centroids := progress.centroids
  labels := progress.labels
  iterations := progress.iterations
  reason := reason
  changeTrace := progress.changeTrace
  dead := progress.dead

variable {σ ρ : Type} (store : PointStore σ ρ)

/-- One iteration, whose means may overlap. -/
def advanceWith (overlaps : Overlaps) (working : List Point) (progress : Progress) :
    Procedure σ ρ Progress := do
  Procedure.report (.iteration (progress.iterations + 1))
  let labels ← store.assign working progress.centroids
  let counts ← Procedure.expect (labelCounts? labels progress.centroids.length)
  let centroids ← Procedure.checkpointed progress.checkpoint
    (Procedure.mapOverlapping (overlaps progress.iterations) (store.recenter working labels)
      progress.centroids)
  return progress.record working.length centroids labels counts

/-- One iteration. -/
abbrev advance (working : List Point) (progress : Progress) : Procedure σ ρ Progress :=
  progress.advanceWith store .none working

end Progress

namespace Limits

variable {σ ρ : Type} (store : PointStore σ ρ)

/-- Whether a stop is asked for.  Before the first iteration it never is. -/
def stopRequested (stop : StopSignal σ) (iterations : Nat) : Procedure σ ρ Bool := do
  let session ← get
  return 0 < iterations && stop iterations session.store

/-- Iterates until there is a reason to stop, at most `remaining` times, with means
that may overlap. -/
def iterateWith (overlaps : Overlaps) (limits : Limits) (stop : StopSignal σ)
    (working : List Point) : (remaining : Nat) → Progress → Procedure σ ρ (Progress × StopReason)
  | 0, progress => return (progress, .iterationLimit limits.maxIterations)
  | remaining + 1, progress => do
    if ← stopRequested stop progress.iterations then
      return (progress, .cancelled)
    else
      let progress ← progress.advanceWith store overlaps working
      match stopReason? progress.iterations progress.changeTrace limits.changeLimit
          limits.maxIterations with
      | some reason => return (progress, reason)
      | none => limits.iterateWith overlaps stop working remaining progress

/-- Refines seeds over a working set, with means that may overlap.  The seeds are
numbered from one up, in order. -/
def refineWith (overlaps : Overlaps) (limits : Limits) (stop : StopSignal σ)
    (working : List Point) (seeds : List Centroid) : Procedure σ ρ Refinement := do
  if working.isEmpty || seeds.isEmpty then
    Procedure.fail .emptyInput
  else if limits.maxIterations = 0 then
    Procedure.fail (.invalidArgument .noIterations)
  else if seeds.map Centroid.id ≠ clusterLabels seeds.length then
    Procedure.fail (.invalidArgument .seedNumbers)
  else
    let (progress, reason) ← limits.iterateWith store overlaps stop working limits.maxIterations
      (Progress.start seeds)
    Procedure.report (.refined progress.iterations reason)
    if !progress.dead.isEmpty then
      Procedure.report (.deadCentroids progress.dead)
    return progress.finish reason

/-- Iterates until there is a reason to stop, at most `remaining` times. -/
abbrev iterate (limits : Limits) (stop : StopSignal σ) (working : List Point) (remaining : Nat)
    (progress : Progress) : Procedure σ ρ (Progress × StopReason) :=
  limits.iterateWith store .none stop working remaining progress

/-- Refines seeds over a working set.  The seeds are numbered from one up, in
order. -/
abbrev refine (limits : Limits) (stop : StopSignal σ) (working : List Point)
    (seeds : List Centroid) : Procedure σ ρ Refinement :=
  limits.refineWith store .none stop working seeds

end Limits

end SampledKmeans
