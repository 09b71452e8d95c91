import SampledKmeans.Count
import SampledKmeans.Decimal.Layout

/-!
# Sparse vectors

A sparse vector keeps the indices of its non-zero coordinates and, beside them,
their values.  `SparseVector.Valid` says what the checked constructors
guarantee: as many values as indices, indices strictly increasing, and every
value finite and different from zero.  A vector read from a text need not be
valid; the operations say what they do then.
-/

namespace SampledKmeans

/-- A vector that stores only its non-zero coordinates. -/
structure SparseVector where
  indices : List UInt32 := []
  values : List Float := []
  deriving DecidableEq, BEq, Repr

/-- Why two lists do not make a vector. -/
inductive VectorDefect where
  /-- There are not as many values as indices. -/
  | lengths (indices values : Nat)
  /-- An index is not greater than the one before it. -/
  | order
  /-- A value is infinite or not a number. -/
  | notFinite (value : Float)
  /-- A defect that a backend reports in its own words. -/
  | reported (text : String)
  deriving DecidableEq, Repr

/-- The wording of a defect. -/
def VectorDefect.message : VectorDefect → String
  | .lengths indices values => toString indices ++ " indices but " ++ toString values ++ " values"
  | .order => "indices must be strictly increasing"
  | .notFinite value => "non-finite value " ++ Decimal.inMessage value
  | .reported text => text

namespace SparseVector

/-! ## Construction -/

/-- Whether every index is greater than the one before it. -/
def increasing : List UInt32 → Bool
  | i :: j :: rest => i < j && increasing (j :: rest)
  | _ => true

/-- A coordinate is stored when it differs from zero. -/
def isStored (coordinate : UInt32 × Float) : Bool :=
  coordinate.2 != 0.0

/-- The vector of a list of coordinates. -/
def ofCoordinates (coordinates : List (UInt32 × Float)) : SparseVector where
  indices := coordinates.map Prod.fst
  values := coordinates.map Prod.snd

/-- The coordinates of a vector: each index with the value beside it. -/
def coordinates (v : SparseVector) : List (UInt32 × Float) :=
  v.indices.zip v.values

@[simp] theorem coordinates_ofCoordinates (coordinates : List (UInt32 × Float)) :
    (ofCoordinates coordinates).coordinates = coordinates := by
  induction coordinates with
  | nil => rfl
  | cons c rest ih => simpa [SparseVector.coordinates, ofCoordinates] using ih

/-- The vector with given indices and values, without its zeros.  Of several
defects the first is reported: lengths, order, values. -/
def ofLists (indices : List UInt32) (values : List Float) : Except VectorDefect SparseVector :=
  if indices.length ≠ values.length then
    .error (.lengths indices.length values.length)
  else if !increasing indices then
    .error .order
  else
    match values.find? fun v => !v.isFinite with
    | some v => .error (.notFinite v)
    | none => .ok (ofCoordinates ((indices.zip values).filter isStored))

/-- Puts a coordinate before the first one whose index is not smaller. -/
def insertByIndex (coordinate : UInt32 × Float) : List (UInt32 × Float) → List (UInt32 × Float)
  | [] => [coordinate]
  | other :: rest =>
    if coordinate.1 ≤ other.1 then coordinate :: other :: rest
    else other :: insertByIndex coordinate rest

/-- The coordinates in the order of their indices; coordinates of one index
keep their order. -/
def sortByIndex (coordinates : List (UInt32 × Float)) : List (UInt32 × Float) :=
  coordinates.foldr insertByIndex []

/-- The vector with the given coordinates, in any order. -/
def ofPairs (pairs : List (UInt32 × Float)) : Except VectorDefect SparseVector :=
  let sorted := sortByIndex pairs
  ofLists (sorted.map Prod.fst) (sorted.map Prod.snd)

/-- The vector with the given values at the indices from zero on.  Positions
are counted modulo the size of the index type. -/
def ofDense (dense : List Float) : Except VectorDefect SparseVector :=
  ofPairs ((dense.zipIdx.map fun (v, i) => (UInt32.ofNat i, v)).filter isStored)

/-! ## Reading -/

/-- The number of stored indices. -/
def storedCount (v : SparseVector) : Nat :=
  v.indices.length

/-- Whether no index is stored. -/
def isZero (v : SparseVector) : Bool :=
  v.indices.isEmpty

/-- The position of an index in a list of increasing indices, counted from
`base`.  The list is halved until one index is left. -/
def position? (target : UInt32) (base : Nat) (window : List UInt32) : Option Nat :=
  match window with
  | [] => none
  | [i] => if i = target then some base else none
  | i :: j :: rest =>
    let half := (rest.length + 2) / 2
    if target < (i :: j :: rest).get ⟨half, by simp only [List.length_cons]; omega⟩ then
      position? target base ((i :: j :: rest).take (rest.length + 2 - half))
    else
      position? target (base + half) ((i :: j :: rest).drop half)
termination_by window.length
decreasing_by
  all_goals simp only [List.length_take, List.length_drop, List.length_cons]; omega

/-- The value at an index: zero when the index is not stored, and `none` when
it is stored with no value beside it. -/
def get? (v : SparseVector) (index : UInt32) : Option Float :=
  match position? index 0 v.indices with
  | some position => v.values[position]?
  | none => some 0.0

/-- The values at the indices below `dim`. -/
def toDense (v : SparseVector) (dim : Nat) : List Float :=
  v.coordinates.foldl (fun dense (i, x) => dense.set i.toNat x) (List.replicate dim 0.0)

@[simp] theorem length_toDense (v : SparseVector) (dim : Nat) :
    (v.toDense dim).length = dim := by
  have h (coordinates : List (UInt32 × Float)) (dense : List Float) :
      (coordinates.foldl (fun dense (i, x) => dense.set i.toNat x) dense).length =
        dense.length := by
    induction coordinates generalizing dense with
    | nil => rfl
    | cons c rest ih => rw [List.foldl_cons, ih, List.length_set]
  rw [toDense, h, List.length_replicate]

/-- The values at the indices below `dim`, provided that there is room for so
many. -/
def toDense? (v : SparseVector) (dim : Nat) : Option (List Float) :=
  if dim ≤ maxNumbers then some (v.toDense dim) else none

/-! ## Validity -/

/-- The guarantee of the checked constructors. -/
structure Valid (v : SparseVector) : Prop where
  balanced : v.indices.length = v.values.length
  increasing : v.indices.Pairwise (· < ·)
  finite : ∀ x ∈ v.values, x.isFinite = true
  nonzero : ∀ x ∈ v.values, (x != 0.0) = true

end SparseVector

end SampledKmeans
