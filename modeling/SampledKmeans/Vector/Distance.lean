import SampledKmeans.Vector.Basic

/-!
# Euclidean distance of sparse vectors

Both index lists are walked in order, without building dense vectors.  The walk
lists what it meets: an index of both vectors, or of one of them; once one
vector is exhausted, what is left of the other is taken as it stands.  The
squares are added in the order of the walk, and each remainder is summed on its
own before it is added.
-/

namespace SampledKmeans.SparseVector

/-- What two vectors hold at one index that at least one of them stores. -/
inductive Gap where
  /-- Both store the index. -/
  | both (index : UInt32) (x y : Float)
  /-- Only the left one does. -/
  | left (index : UInt32) (x : Float)
  /-- Only the right one does. -/
  | right (index : UInt32) (y : Float)
  deriving DecidableEq, Repr

/-- The squared difference at an index. -/
def Gap.square : Gap → Float
  | .both _ x y => (x - y) * (x - y)
  | .left _ x => x * x
  | .right _ y => y * y

/-- The result of walking two vectors side by side. -/
structure Walk where
  /-- What was met while both vectors had indices left, in order. -/
  gaps : List Gap
  /-- The values of the left vector that were not met. -/
  leftRest : List Float
  /-- The values of the right vector that were not met. -/
  rightRest : List Float
  deriving DecidableEq, Repr

/-- A walk that meets one more gap first. -/
def Walk.meet (gap : Gap) (walk : Walk) : Walk :=
  { walk with gaps := gap :: walk.gaps }

/-- Walks the right vector up to the index `i` of the left one, and goes on
with `next` once the index `i` is used up.  `none` when an index has no value
beside it. -/
def walkPast (i : UInt32) (xs : List Float)
    (next : List Float → List UInt32 → List Float → Option Walk) :
    List UInt32 → List Float → Option Walk
  | [], ys => some ⟨[], xs, ys⟩
  | j :: js, ys =>
    if i = j then
      match xs, ys with
      | x :: xs, y :: ys => (next xs js ys).map (Walk.meet (.both i x y))
      | _, _ => none
    else if i < j then
      match xs with
      | x :: xs => (next xs (j :: js) ys).map (Walk.meet (.left i x))
      | [] => none
    else
      match ys with
      | y :: ys => (walkPast i xs next js ys).map (Walk.meet (.right j y))
      | [] => none

/-- Walks two index lists with their values side by side. -/
def walkLists : List UInt32 → List Float → List UInt32 → List Float → Option Walk
  | [], xs, _, ys => some ⟨[], xs, ys⟩
  | i :: is, xs, js, ys => walkPast i xs (walkLists is) js ys

/-- Walks two vectors side by side; `none` when an index that is met has no
value beside it. -/
def walk? (a b : SparseVector) : Option Walk :=
  walkLists a.indices a.values b.indices b.values

/-- The sum of the squares of values, from left to right. -/
def sumSquares (values : List Float) : Float :=
  values.foldl (fun sum v => sum + v * v) 0.0

/-- The squared distance that a walk adds up to. -/
def Walk.radicand (walk : Walk) : Float :=
  walk.gaps.foldl (fun sum gap => sum + gap.square) 0.0 + sumSquares walk.leftRest +
    sumSquares walk.rightRest

/-- The Euclidean distance; `none` when an index that is met has no value
beside it. -/
def distance? (a b : SparseVector) : Option Float :=
  (walk? a b).map fun walk => walk.radicand.sqrt

end SampledKmeans.SparseVector
