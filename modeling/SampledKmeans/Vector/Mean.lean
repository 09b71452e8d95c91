import SampledKmeans.Vector.Basic

/-!
# The mean of sparse vectors

The values at each index are added up in the order of the vectors and divided
by the number of vectors.  A sum that cancels to zero leaves no coordinate.
-/

namespace SampledKmeans.SparseVector

/-- Adds a value to the sum kept at an index, in a list of sums ordered by
index. -/
def addAt (index : UInt32) (value : Float) : List (UInt32 × Float) → List (UInt32 × Float)
  | [] => [(index, 0.0 + value)]
  | (i, sum) :: rest =>
    if index < i then (index, 0.0 + value) :: (i, sum) :: rest
    else if index = i then (i, sum + value) :: rest
    else (i, sum) :: addAt index value rest

/-- Adds every coordinate of a vector to the sums. -/
def addTo (sums : List (UInt32 × Float)) (v : SparseVector) : List (UInt32 × Float) :=
  v.coordinates.foldl (fun sums (i, x) => addAt i x sums) sums

/-- The mean of some vectors; `none` when there are none. -/
def mean? (vectors : List SparseVector) : Option SparseVector :=
  if vectors.isEmpty then
    none
  else
    let count := Float.ofNat vectors.length
    let quotients := (vectors.foldl addTo []).map fun (i, sum) => (i, sum / count)
    some (ofCoordinates (quotients.filter isStored))

end SampledKmeans.SparseVector
