import SampledKmeans.Count
import SampledKmeans.Store.Basic

/-!
# Goodness of fit

The mean distance from the points to their centroids.  The smaller it is, the
better do the centroids represent the points; values compare only between runs
on the same points.
-/

namespace SampledKmeans

/-- A sum of distances and how many there are. -/
structure FitSum where
  total : Float := 0.0
  count : Nat := 0
  deriving DecidableEq, Repr

namespace FitSum

/-- Adds the distance of one point.  The number of distances is kept as a count,
since sums can grow beyond any list by being merged. -/
def observe (sum : FitSum) (distance : Float) : FitSum where
  total := sum.total + distance
  count := wrapCount (sum.count + 1)

/-- The two sums together, their number kept as a count. -/
def merge (a b : FitSum) : FitSum where
  total := a.total + b.total
  count := wrapCount (a.count + b.count)

/-- The mean distance; `none` when nothing was observed. -/
def mean? (sum : FitSum) : Option Float :=
  if sum.count = 0 then none else some (sum.total / Float.ofNat sum.count)

/-- The sum of a list of distances, added from left to right. -/
def ofDistances (distances : List Float) : FitSum where
  total := distances.foldl (· + ·) 0.0
  count := distances.length

end FitSum

namespace PointStore

variable {σ ρ : Type} (store : PointStore σ ρ)

/-- The distance from a position to the centroid with the given identifier. -/
def distanceTo (centroids : List Centroid) (position : SparseVector) (id : Nat) :
    Procedure σ ρ Float := do
  match centroids.find? fun c => c.id == id with
  | some centroid => store.measure position centroid.position
  | none => Procedure.fail (.invalidArgument (.unknownCentroid id))

/-- The goodness of fit of positions that are assigned to centroids. -/
def goodnessOfFit (assigned : List (SparseVector × Nat)) (centroids : List Centroid) :
    Procedure σ ρ Float := do
  let distances ← assigned.mapM fun (position, id) => store.distanceTo centroids position id
  match (FitSum.ofDistances distances).mean? with
  | some fit => return fit
  | none => Procedure.fail .emptyInput

end PointStore

end SampledKmeans
