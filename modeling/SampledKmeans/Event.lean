import SampledKmeans.Refinement.Stopping

/-!
# Events

What a computation reports while it runs.  Each event has a level, a name and
fields; these say everything about it, so an observer needs no knowledge of the
computation.
-/

namespace SampledKmeans

/-- The importance of an event. -/
inductive Level where
  | debug
  | info
  | warn
  deriving DecidableEq, Repr

/-- The value of a field of an event. -/
inductive FieldValue where
  | text (value : String)
  | number (value : Float)
  deriving DecidableEq, Repr

/-- Something that happened. -/
inductive Event where
  /-- Seeding of `k` centroids starts. -/
  | seeding (k : Nat)
  /-- Seeding ran out of distinct positions. -/
  | seedingShortfall (requested achieved : Nat)
  /-- Clustering goes on with fewer centroids than requested. -/
  | fewerCentroids (requested achieved : Nat)
  /-- Refinement will work on a sample. -/
  | sampledWorkingSet (sample population : Nat)
  /-- Refinement will work on every point. -/
  | fullWorkingSet (population : Nat)
  /-- An iteration starts. -/
  | iteration (number : Nat)
  /-- Refinement is over. -/
  | refined (iterations : Nat) (reason : StopReason)
  /-- Some centroids are left without points. -/
  | deadCentroids (ids : List Nat)
  /-- The centroids of a sample are applied to the population. -/
  | expanding
  /-- The goodness of fit is known. -/
  | goodnessOfFit (fit : Float)
  /-- A job without an identifier was given one. -/
  | idGenerated (id : String)
  /-- The parameters of a job are settled. -/
  | jobSettled (k : Nat) (source : String) (withFit : Bool)
      (id centroidsTable pointsTable : String)
  /-- A table was written to a file. -/
  | tableWritten (rows : Nat)
  deriving DecidableEq, Repr

namespace Event

/-- The importance of an event. -/
def level : Event → Level
  | .iteration _ | .tableWritten _ => .debug
  | .seedingShortfall _ _ | .fewerCentroids _ _ | .deadCentroids _ => .warn
  | _ => .info

/-- The name of an event. -/
def name : Event → String
  | .seeding _ => "kmeans.seeding"
  | .seedingShortfall _ _ => "seeding.shortfall"
  | .fewerCentroids _ _ => "kmeans.continuing_with_fewer_centroids"
  | .sampledWorkingSet _ _ => "kmeans.working_set.sample"
  | .fullWorkingSet _ => "kmeans.working_set.full"
  | .iteration _ => "kmeans.iteration"
  | .refined _ _ => "kmeans.exit"
  | .deadCentroids _ => "kmeans.dead_centroids"
  | .expanding => "kmeans.expanding"
  | .goodnessOfFit _ => "kmeans.goodness_of_fit"
  | .idGenerated _ => "run.run_id.generated"
  | .jobSettled .. => "run.parameters"
  | .tableWritten _ => "sink.table.written"

/-- A field that holds a count. -/
def countField (name : String) (n : Nat) : String × FieldValue :=
  (name, .text (toString n))

/-- The fields of an event. -/
def fields : Event → List (String × FieldValue)
  | .seeding k => [countField "k" k]
  | .seedingShortfall requested achieved | .fewerCentroids requested achieved =>
    [countField "requested" requested, countField "achieved" achieved]
  | .sampledWorkingSet sample population =>
    [countField "sample" sample, countField "population" population]
  | .fullWorkingSet population => [countField "population" population]
  | .iteration number => [countField "iteration" number]
  | .refined iterations reason =>
    [countField "iterations" iterations, ("reason", .text reason.message)]
  | .deadCentroids ids =>
    [("dead", .text ("[" ++ ", ".intercalate (ids.map toString) ++ "]"))]
  | .expanding => []
  | .goodnessOfFit fit => [("fit", .number fit)]
  | .idGenerated id => [("run_id", .text id)]
  | .jobSettled k source withFit id centroidsTable pointsTable =>
    [countField "k" k, ("source", .text source),
      ("goodness", .text (if withFit then "true" else "false")), ("run_id", .text id),
      ("centroids_table", .text centroidsTable), ("points_table", .text pointsTable)]
  | .tableWritten rows => [countField "rows" rows]

end Event

end SampledKmeans
