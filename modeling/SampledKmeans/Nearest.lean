import SampledKmeans.Store.Basic

/-!
# The nearest centroid

Which centroid a point belongs to is decided in two steps: the distances to all
centroids are measured, and the smallest of them is chosen.  The choice goes to
the earliest centroid when several are equally near, and to the first one when
no distance is smaller than infinity.
-/

namespace SampledKmeans

/-- The distance that no other exceeds. -/
def infiniteDistance : Float := 1.0 / 0.0

/-- The smaller of two numbers; one that is not a number gives way. -/
def smaller (a b : Float) : Float :=
  if a.isNaN then b else if b.isNaN then a else if b < a then b else a

/-- The choice between the best so far and the next measured centroid. -/
def nearer (best next : Nat × Float) : Nat × Float :=
  if next.2 < best.2 then next else best

/-- The nearest of the measured centroids, given as identifier and distance. -/
def nearestOf (measured : List (Nat × Float)) : Nat × Float :=
  measured.foldl nearer ((measured.head?.map Prod.fst).getD 0, infiniteDistance)

namespace PointStore

variable {σ ρ : Type} (store : PointStore σ ρ)

/-- The distances from a position to all centroids. -/
def measureAll (position : SparseVector) (centroids : List Centroid) :
    Procedure σ ρ (List (Nat × Float)) :=
  centroids.mapM fun c => do
    let d ← store.measure position c.position
    return (c.id, d)

/-- The nearest centroid to a position, with its distance. -/
def nearest (position : SparseVector) (centroids : List Centroid) :
    Procedure σ ρ (Nat × Float) := do
  return nearestOf (← store.measureAll position centroids)

/-- The identifier of the nearest centroid for every point. -/
def assign (points : List Point) (centroids : List Centroid) : Procedure σ ρ (List Nat) :=
  points.mapM fun p => do
    return (← store.nearest p.position centroids).1

/-- The distance from a position to the nearest of the centroids. -/
def minDistance (position : SparseVector) (centroids : List Centroid) : Procedure σ ρ Float := do
  let measured ← store.measureAll position centroids
  return (measured.map Prod.snd).foldl smaller infiniteDistance

end PointStore

end SampledKmeans
