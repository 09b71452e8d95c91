import SampledKmeans.Count
import SampledKmeans.Failure

/-!
# Sample sizes that cover every cluster

How many uniform draws are needed so that each of `k` equally likely clusters
is hit at least once, with a given confidence `c`?  One cluster is missed by
`m` draws with probability about `exp (-m / k)`, so that `m` is the whole part
of `-ln (1 - c ^ (1 / k)) · k`.
-/

namespace SampledKmeans

/-- The confidence used unless another one is asked for. -/
def defaultConfidence : Float := 0.999

/-- The whole part of a number as a count.  A number that is negative or not a
number counts as zero, and a number beyond the largest count as that. -/
def wholePart (x : Float) : Nat :=
  x.toUInt64.toNat

/-- The number of draws that hit each of `k` clusters with a confidence. -/
def coverage (k : Nat) (confidence : Float) : Except Error Nat :=
  if k = 0 then
    .error (.invalidArgument .noClusters)
  else if 0.0 < confidence ∧ confidence < 1.0 then
    let clusters := Float.ofNat k
    .ok (wholePart (-(1.0 - confidence.pow (1.0 / clusters)).log * clusters))
  else
    .error (.invalidArgument (.confidence confidence))

/-- The number of points to work on: so many per cluster as cover the clusters,
but at most `limit`. -/
def workingSampleSize (k : Nat) (confidence : Float) (perCluster limit : Nat) :
    Except Error Nat := do
  let draws ← coverage k confidence
  return min (capCount (draws * perCluster)) limit

end SampledKmeans
