import SampledKmeans.Point
import SampledKmeans.Session
import SampledKmeans.Vector.Distance
import SampledKmeans.Vector.Mean

/-!
# Point stores

Clustering never owns the points.  It reads them through a `PointStore`, which
can sample, scan and count them and which supplies the metric and the mean.  A
store may keep a state of its own; every call is given that state and returns
it.  A scan is answered by the whole sequence of its items, each with its own
outcome and delay.
-/

namespace SampledKmeans

/-- The calls that a point store answers, with a state `σ` of its own and
random sources of type `ρ`. -/
structure PointStore (σ ρ : Type) where
  /-- Up to the given number of points, chosen at random without
  replacement. -/
  sample : Nat → ρ → σ → Reply (List Point) × ρ × σ
  /-- Every point once. -/
  scan : σ → Reply (List (Reply Point)) × σ
  /-- The size of the population. -/
  count : σ → Reply Nat × σ
  /-- The distance of two positions; `none` when a vector is read beyond its
  end. -/
  metric : SparseVector → SparseVector → Option Float := SparseVector.distance?
  /-- The mean of some positions. -/
  mean : List SparseVector → σ → Reply SparseVector × σ

/-- The mean of some positions, or the error that there are none. -/
def meanOf (positions : List SparseVector) : Except Error SparseVector :=
  match SparseVector.mean? positions with
  | some mean => .ok mean
  | none => .error .emptyInput

namespace PointStore

variable {σ ρ : Type} (store : PointStore σ ρ)

/-- The points of a scan, up to its first failing item. -/
def collect : List (Reply Point) → Except Error (List Point)
  | [] => .ok []
  | item :: rest => do
    let point ← item.outcome
    let points ← collect rest
    return point :: points

/-- Draws a sample. -/
def drawSample (n : Nat) : Procedure σ ρ (List Point) :=
  Procedure.callRandom (store.sample n)

/-- Starts a scan. -/
def openScan : Procedure σ ρ (List (Reply Point)) :=
  Procedure.call store.scan

/-- All points of a scan. -/
def scanAll : Procedure σ ρ (List Point) := do
  Procedure.check (collect (← store.openScan))

/-- Asks for the size of the population. -/
def askCount : Procedure σ ρ Nat :=
  Procedure.call store.count

/-- Asks for a mean. -/
def askMean (positions : List SparseVector) : Procedure σ ρ SparseVector :=
  Procedure.call (store.mean positions)

/-- The distance of two positions. -/
def measure (a b : SparseVector) : Procedure σ ρ Float :=
  Procedure.expect (store.metric a b)

end PointStore

end SampledKmeans
