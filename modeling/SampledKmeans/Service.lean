import SampledKmeans.Catalog
import SampledKmeans.Job
import SampledKmeans.Table.Sink

/-!
# The clustering service

The service performs jobs: it finds the points of the source in a catalog,
clusters them, and writes the centroids and the assignments to a sink.  All
parameters are checked before any work is done, and nothing is written before
the clustering is complete.  The state of a session is that of the catalog's
stores together with that of the sink.
-/

namespace SampledKmeans

/-- What a service needs from its environment. -/
structure Environment where
  /-- The identifier for a job that has none. -/
  generatedId : String
  /-- The random source for settings without a seed. -/
  randomness : ChaCha

/-- What all jobs of a service share. -/
structure Service (τ : Type) where
  settings : Settings := {}
  /-- Whether and when the caller asks to stop. -/
  stop : StopSignal τ := .never

namespace Service

variable {σ τ : Type}

/-- Settles the names of a job. -/
def settleNames (environment : Environment) (job : Job) : Procedure τ ChaCha JobNames := do
  let source ← Procedure.check (TableName.ofSource job.source)
  if job.id.isEmpty then
    Procedure.report (.idGenerated environment.generatedId)
    return job.namesWith source environment.generatedId
  else
    return job.namesWith source job.id

/-- The clustering that a job asks for. -/
def clustering (service : Service τ) (k : Nat) (withFit : Bool) : Clustering τ where
  k := k
  settings := service.settings
  withFit := withFit
  stop := service.stop

/-- A catalog's store, seen from a state that also holds that of a sink. -/
def besideSink (store : PointStore σ ChaCha) : PointStore (σ × τ) ChaCha :=
  store.focus Prod.fst fun state whole => (state, whole.2)

/-- A write to a sink, seen from a state that also holds that of a catalog. -/
def write (request : τ → Reply Unit × τ) : Procedure (σ × τ) ChaCha Unit :=
  Procedure.call fun whole =>
    let (reply, state) := request whole.2
    (reply, (whole.1, state))

/-- Clusters the source of a job and writes the two tables. -/
def perform (service : Service (σ × τ)) (environment : Environment) (catalog : Catalog σ ChaCha)
    (sink : TableSink τ) (job : Job) : Procedure (σ × τ) ChaCha JobReport := do
  Procedure.check service.settings.validate
  if job.k = 0 then
    Procedure.fail (.invalidArgument .emptyJob)
  else
    let names ← settleNames environment job
    let store ← Procedure.check (catalog.resolve job.source)
    let centroidsTable := names.centroidsTable.text
    let pointsTable := names.pointsTable.text
    Procedure.report (.jobSettled job.k job.source job.withFit names.id centroidsTable pointsTable)
    let result ← Procedure.withRandom (service.settings.randomness environment.randomness)
      ((service.clustering job.k job.withFit).fit (besideSink store))
    let timed := sink.timed service.settings.timeout
    write (timed.writeCentroids centroidsTable result.centroids)
    write (timed.writeAssignments pointsTable result.assignments)
    return { names, result }

/-- Seeds centroids for a source, without refining them. -/
def seed (service : Service (σ × τ)) (environment : Environment) (catalog : Catalog σ ChaCha)
    (source : String) (k : Nat) : Procedure (σ × τ) ChaCha SeedingReport := do
  let _ ← Procedure.check (TableName.ofSource source)
  let store ← Procedure.check (catalog.resolve source)
  let seeding ← Procedure.withRandom (service.settings.randomness environment.randomness)
    ((service.clustering k false).seedCentroids (besideSink store))
  return { source, seeding }

end Service

end SampledKmeans
