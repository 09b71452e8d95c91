import SampledKmeans.Decimal.Layout

/-!
# When refinement stops

After each iteration three rules are asked in order: has the change fraction
stopped decreasing, has it fallen below the limit, has the iteration limit been
reached.  `stopReason?` is their joint answer.  Between iterations the caller
may also ask to stop.
-/

namespace SampledKmeans

/-- Why refinement stopped. -/
inductive StopReason where
  /-- The change fraction stopped decreasing; carries the mean of the last four
  measurements. -/
  | stabilized (average : Float)
  /-- The change fraction fell below the limit. -/
  | belowLimit (limit : Float)
  /-- The iteration limit was reached. -/
  | iterationLimit (limit : Nat)
  /-- The caller asked to stop. -/
  | cancelled
  deriving DecidableEq, Repr

namespace StopReason

/-- The wording of a reason. -/
def message : StopReason → String
  | .stabilized average =>
    "fraction of reassigned points has stabilized around " ++ Decimal.inMessage average
  | .belowLimit limit =>
    "fraction of reassigned points is smaller than the limit: " ++ Decimal.inMessage limit
  | .iterationLimit limit => "reached the maximum number of allowed iterations: " ++ toString limit
  | .cancelled => "cancelled by caller"

/-- Whether the measurements themselves ended the refinement. -/
def isConverged : StopReason → Bool
  | .stabilized _ | .belowLimit _ => true
  | .iterationLimit _ | .cancelled => false

end StopReason

/-- The mean of the last four measurements, if there are four and the oldest of
them is smaller than the newest. -/
def plateau? (trace : List Float) : Option Float :=
  match trace.drop (trace.length - 4) with
  | [a, b, c, d] => if a - d < 0.0 then some ((0.0 + a + b + c + d) / 4.0) else none
  | _ => none

/-- The reason to stop after `iteration` iterations, given the change fractions
measured so far. -/
def stopReason? (iteration : Nat) (trace : List Float) (limit : Float) (maxIterations : Nat) :
    Option StopReason :=
  match plateau? trace with
  | some average => some (.stabilized average)
  | none =>
    if trace.getLast?.any (· < limit) then
      some (.belowLimit limit)
    else if maxIterations ≤ iteration then
      some (.iterationLimit maxIterations)
    else
      none

end SampledKmeans
