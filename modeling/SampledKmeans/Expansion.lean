import SampledKmeans.Fit
import SampledKmeans.Nearest

/-!
# Expansion

Centroids that were found on a sample are applied to the whole population: one
scan assigns every point to its nearest centroid, by the same rule as in
refinement.  The scan is read in blocks of `blockSize` points, and a failing
item ends the expansion before its block is assigned.
-/

namespace SampledKmeans

/-- The number of points that are assigned at a time. -/
def blockSize : Nat := 4096

/-- The assignment of a whole population. -/
structure Expansion where
  /-- One assignment for each scanned point, in scan order. -/
  assignments : List Assignment
  /-- The goodness of fit, if it was asked for and there are points. -/
  fit : Option Float
  deriving DecidableEq, Repr

namespace Expansion

/-- An expansion in progress. -/
structure Draft where
  assignments : Array Assignment := #[]
  /-- The sum of the distances from the assigned points to their centroids. -/
  total : Float := 0.0

/-- Adds a point with its nearest centroid and the distance to it. -/
def Draft.add (state : Draft) (entry : Point × Nat × Float) : Draft where
  assignments := state.assignments.push (entry.1.assignTo entry.2.1)
  total := state.total + entry.2.2

/-- The distances of an expansion: one for each assignment. -/
def Draft.sum (state : Draft) : FitSum where
  total := state.total
  count := state.assignments.size

variable {σ ρ : Type} (store : PointStore σ ρ)

/-- Assigns a block of points. -/
def assignBlock (centroids : List Centroid) (state : Draft) (block : List Point) :
    Procedure σ ρ Draft := do
  let nearest ← block.mapM fun p => store.nearest p.position centroids
  return (block.zip nearest).foldl Draft.add state

/-- Reads a scan in blocks and assigns each.  `pending` holds the points of the
current block from the last to the first, and `room` is the number of points
that still fit into it. -/
def readBlocks (centroids : List Centroid) :
    List (Reply Point) → (pending : List Point) → (room : Nat) → Draft → Procedure σ ρ Draft
  | [], pending, _, state => assignBlock store centroids state pending.reverse
  | item :: rest, pending, 0, state => do
    let state ← assignBlock store centroids state pending.reverse
    let point ← Procedure.check item.outcome
    readBlocks centroids rest [point] (blockSize - 1) state
  | item :: rest, pending, room + 1, state => do
    let point ← Procedure.check item.outcome
    readBlocks centroids rest (point :: pending) room state

end Expansion

/-- Assigns every point of a store to its nearest centroid. -/
def PointStore.expand {σ ρ : Type} (store : PointStore σ ρ) (withFit : Bool)
    (centroids : List Centroid) : Procedure σ ρ Expansion := do
  if centroids.isEmpty then
    Procedure.fail (.invalidArgument .nothingToExpand)
  else
    let items ← store.openScan
    let result ← Expansion.readBlocks store centroids items [] blockSize {}
    return {
      assignments := result.assignments.toList
      fit := if withFit then result.sum.mean? else none }

end SampledKmeans
