import SampledKmeans.Vector.Basic

/-!
# Failures

`Error` lists what can go wrong and why; its wording is in `Error.message`
alone.  A storage error that strikes after refinement has started carries a
`Checkpoint` of the last completed iteration.  `Failure` adds the two endings
that no error describes: a list was read beyond its end, or there was no room
for it.
-/

namespace SampledKmeans

/-- The state of a refinement after one of its iterations. -/
structure Checkpoint where
  /-- Completed iterations. -/
  iteration : Nat
  /-- The positions of the centroids, in the order of their identifiers. -/
  positions : List SparseVector
  /-- The change fractions measured so far. -/
  changeTrace : List Float
  deriving DecidableEq, Repr

/-- Why an argument is refused. -/
inductive Refusal where
  /-- A sample is sized for no cluster at all. -/
  | noClusters
  /-- A clustering is asked for no centroid at all. -/
  | noCentroids
  /-- A job asks for no centroid at all. -/
  | emptyJob
  /-- There are not more points than centroids asked for. -/
  | population (points centroids : Nat)
  /-- A confidence is not a probability strictly between zero and one. -/
  | confidence (value : Float)
  /-- A refinement is allowed no iteration. -/
  | noIterations
  /-- Seeds are not numbered from one up, in order. -/
  | seedNumbers
  /-- A population is to be expanded to no centroid at all. -/
  | nothingToExpand
  /-- A point is assigned to a centroid that is not there. -/
  | unknownCentroid (id : Nat)
  /-- Two points have the same identifier. -/
  | duplicatePoint (id : Int)
  /-- A point source is not named by a schema and a table. -/
  | noSchema (source : String)
  /-- No point source has this name. -/
  | unknownSource (source : String)
  /-- A refusal that a backend reports in its own words. -/
  | reported (argument text : String)
  deriving DecidableEq, Repr

/-- The argument that a refusal is about. -/
def Refusal.argument : Refusal → String
  | .noClusters | .noCentroids | .emptyJob | .population _ _ => "k"
  | .confidence _ => "confidence"
  | .noIterations => "max_iterations"
  | .seedNumbers => "seeds"
  | .nothingToExpand => "centroids"
  | .unknownCentroid _ => "assignments"
  | .duplicatePoint _ => "points"
  | .noSchema _ | .unknownSource _ => "source"
  | .reported argument _ => argument

/-- The wording of a refusal. -/
def Refusal.message : Refusal → String
  | .noClusters => "number of clusters must be positive"
  | .noCentroids => "number of centroids must be a positive integer"
  | .emptyJob => "number of centroids must be a positive integer (0)"
  | .population points centroids =>
    "population of " ++ toString points ++ " points must exceed the " ++ toString centroids ++
      " requested"
  | .confidence value => "must lie in (0, 1), got " ++ Decimal.inMessage value
  | .noIterations => "must be at least 1"
  | .seedNumbers => "centroid ids must be 1..=k in order"
  | .nothingToExpand => "cannot expand without centroids"
  | .unknownCentroid id => "unknown centroid id " ++ toString id
  | .duplicatePoint id => "duplicate point id " ++ toString id
  | .noSchema source => "point source is missing a schema prefix (" ++ source ++ ")"
  | .unknownSource source => "point source does not exist (" ++ source ++ ")"
  | .reported _ text => text

/-- Why settings cannot be used. -/
inductive SettingsDefect where
  /-- No iteration is allowed. -/
  | iterations
  /-- A sample size is zero. -/
  | sampleSizes
  /-- The change limit is not in `[0, 1)`. -/
  | changeLimit (value : Float)
  /-- The seeding confidence is not in `(0, 1)`. -/
  | confidence (value : Float)
  /-- The seeding exponent is not positive and finite. -/
  | exponent (value : Float)
  /-- A defect described in other words. -/
  | reported (text : String)
  deriving DecidableEq, Repr

/-- The wording of a defect of settings. -/
def SettingsDefect.message : SettingsDefect → String
  | .iterations => "max_iterations must be at least 1"
  | .sampleSizes => "sample sizes must be positive"
  | .changeLimit value => "change_pct_limit must lie in [0, 1), got " ++ Decimal.inMessage value
  | .confidence value => "seed_confidence must lie in (0, 1), got " ++ Decimal.inMessage value
  | .exponent value => "seed_exponent must be positive, got " ++ Decimal.inMessage value
  | .reported text => text

/-- What can go wrong. -/
inductive Error where
  /-- An argument is refused. -/
  | invalidArgument (refusal : Refusal)
  /-- There is nothing to work on. -/
  | emptyInput
  /-- Seeding found fewer distinct positions than centroids asked for. -/
  | seedingShortfall (requested achieved : Nat)
  /-- A call to the point store or to the result sink failed or took too
  long. -/
  | storageUnavailable (operation message : String) (checkpoint : Option Checkpoint)
  /-- Lists do not make a vector. -/
  | invalidVector (defect : VectorDefect)
  /-- Settings cannot be used. -/
  | settings (defect : SettingsDefect)
  /-- A file operation failed. -/
  | inputOutput (text : String)
  /-- Any other error, in the words of whoever reports it. -/
  | other (text : String)
  deriving DecidableEq, Repr

namespace Error

/-- The wording of an error. -/
def message : Error → String
  | .invalidArgument refusal =>
    "invalid argument '" ++ refusal.argument ++ "': " ++ refusal.message
  | .emptyInput => "empty input provided"
  | .seedingShortfall requested achieved =>
    "requested " ++ toString requested ++ " centroids, but only " ++ toString achieved ++
      " could be seeded"
  | .storageUnavailable operation message checkpoint =>
    "point store unavailable during " ++ operation ++ ": " ++ message ++
      match checkpoint with
      | some state => " (last completed iteration: " ++ toString state.iteration ++ ")"
      | none => ""
  | .invalidVector defect => "invalid sparse vector: " ++ defect.message
  | .settings defect => "invalid configuration: " ++ defect.message
  | .inputOutput text => "io error: " ++ text
  | .other text => text

/-- Attaches a checkpoint to a storage error, in place of the one it has; other
errors stay as they are. -/
def withCheckpoint (checkpoint : Checkpoint) : Error → Error
  | .storageUnavailable operation message _ =>
    .storageUnavailable operation message (some checkpoint)
  | error => error

/-- An error of a backend call as a storage error of that operation.  A storage
error keeps its own operation and wording. -/
def asUnavailable (operation : String) : Error → Error
  | .storageUnavailable operation message checkpoint =>
    .storageUnavailable operation message checkpoint
  | error => .storageUnavailable operation error.message none

end Error

/-- How a computation ends when it does not answer. -/
inductive Failure where
  /-- It reports an error. -/
  | error (error : Error)
  /-- It reads a list beyond its end. -/
  | outOfRange
  /-- It makes a list that takes more room than a list may. -/
  | outOfMemory
  deriving DecidableEq, Repr

/-- Changes the error that a failure reports. -/
def Failure.mapError (f : Error → Error) : Failure → Failure
  | .error e => .error (f e)
  | .outOfRange => .outOfRange
  | .outOfMemory => .outOfMemory

end SampledKmeans
