import SampledKmeans.Vector.Basic

/-!
# Points, centroids and assignments

The rows that clustering reads and writes.
-/

namespace SampledKmeans

/-- A point of a population, named by an identifier that is unique there. -/
structure Point where
  id : Int
  position : SparseVector
  deriving DecidableEq, Repr

/-- The representative of a cluster.  Identifiers run from one up. -/
structure Centroid where
  id : Nat
  position : SparseVector
  deriving DecidableEq, Repr

/-- The cluster that a point belongs to, with the point's position. -/
structure Assignment where
  pointId : Int
  position : SparseVector
  centroidId : Nat
  deriving DecidableEq, Repr

/-- The assignment of a point to a centroid. -/
def Point.assignTo (point : Point) (centroidId : Nat) : Assignment where
  pointId := point.id
  position := point.position
  centroidId := centroidId

end SampledKmeans
