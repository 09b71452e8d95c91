import SampledKmeans.Count
import SampledKmeans.Nearest

/-!
# Clusters

The points that share a label, how many there are of each, and how much the
counts have changed from one iteration to the next.  Labels run from one to the
number of clusters; a label outside that range belongs to no cluster and makes
the counts undefined.

Counting works for any number of clusters for whose counts there is room.  The
centroids of a refinement take more room than their counts, so that it counts
labels without asking.
-/

namespace SampledKmeans

/-- The labels of `k` clusters. -/
def clusterLabels (k : Nat) : List Nat :=
  List.range' 1 k

@[simp] theorem length_clusterLabels (k : Nat) : (clusterLabels k).length = k := by
  simp [clusterLabels]

/-- Whether every label names one of `k` clusters. -/
def labelsInRange (k : Nat) (labels : List Nat) : Bool :=
  labels.all fun label => 1 ≤ label && label ≤ k

/-- The number of points with each label; `none` when a label names no
cluster. -/
def labelCounts? (labels : List Nat) (k : Nat) : Option (List Nat) :=
  if labelsInRange k labels then
    some ((clusterLabels k).map fun label => labels.count label)
  else
    none

/-- The number of points with each label; `none` when there is no room for `k`
counts or a label names no cluster. -/
def clusterCounts? (labels : List Nat) (k : Nat) : Option (List Nat) :=
  if k ≤ maxNumbers then labelCounts? labels k else none

theorem clusterCounts?_of_le {k : Nat} (labels : List Nat) (h : k ≤ maxNumbers) :
    clusterCounts? labels k = labelCounts? labels k :=
  if_pos h

/-- The positions of the points with a label, in the order of the points. -/
def membersOf (points : List Point) (labels : List Nat) (label : Nat) : List SparseVector :=
  (points.zip labels).filterMap fun (p, l) => if l = label then some p.position else none

/-- The sum over the clusters by how much their counts differ, as a count. -/
def countDifference (before after : List Nat) : Nat :=
  wrapCount ((before.zip after).foldl (fun total (a, b) => total + ((a - b) + (b - a))) 0)

/-- The difference of the counts as a fraction of the number of points, at most
one.  Without points nothing changes. -/
def changeFraction (before after : List Nat) (total : Nat) : Float :=
  if total = 0 then
    0.0
  else
    smaller (Float.ofNat (countDifference before after) / Float.ofNat total) 1.0

/-- The change fraction of two lists of labels for `k` clusters; `none` when a label
names no cluster. -/
def labelChange? (k : Nat) (before after : List Nat) : Option Float := do
  let counts ← labelCounts? before k
  let counts' ← labelCounts? after k
  return changeFraction counts counts' after.length

namespace PointStore

variable {σ ρ : Type} (store : PointStore σ ρ)

/-- A centroid after its cluster was averaged.  A centroid without points keeps
its position. -/
def recenter (points : List Point) (labels : List Nat) (centroid : Centroid) :
    Procedure σ ρ Centroid := do
  match membersOf points labels centroid.id with
  | [] => return centroid
  | members => return { centroid with position := ← store.askMean members }

end PointStore

/-- The identifiers of the centroids that no label names. -/
def deadIds (labels : List Nat) (centroids : List Centroid) : List Nat :=
  (centroids.map Centroid.id).filter fun id => !labels.contains id

end SampledKmeans
