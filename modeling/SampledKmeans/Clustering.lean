import SampledKmeans.Expansion
import SampledKmeans.Refinement
import SampledKmeans.Seeding
import SampledKmeans.Settings
import SampledKmeans.Store.Timed

/-!
# Clustering

The whole way from a point store to an assignment of every point: seed
centroids, refine them on a working set, and expand to the population.  The
working set is a sample when that is smaller than the population, and all
points otherwise; only a sample needs the expansion.  Refinement touches every
working point in every iteration, so that a sample which covers the clusters
saves most of the work.

`fit` asks for the means of an iteration one after another.  In `fitWith` they may
overlap, as parallel ones do; nothing else of a clustering calls the store at the
same time.
-/

namespace SampledKmeans

/-- A clustering to be made. -/
structure Clustering (σ : Type) where
  /-- The number of clusters. -/
  k : Nat
  settings : Settings := {}
  /-- Whether to compute the goodness of fit. -/
  withFit : Bool := true
  /-- Whether and when the caller asks to stop. -/
  stop : StopSignal σ := .never

/-- The outcome of a clustering. -/
structure Clustered where
  /-- The final centroids, numbered from one up. -/
  centroids : List Centroid
  /-- One assignment for each point. -/
  assignments : List Assignment
  /-- The goodness of fit, if it was asked for. -/
  fit : Option Float
  /-- The number of refinement iterations. -/
  iterations : Nat
  /-- Why refinement stopped. -/
  reason : StopReason
  /-- The change fractions from the second iteration on. -/
  changeTrace : List Float
  /-- The number of clusters asked for. -/
  requested : Nat
  /-- The identifiers of the centroids without points in the last iteration. -/
  dead : List Nat
  /-- The number of points. -/
  population : Nat
  /-- The number of points that refinement worked on. -/
  workingSize : Nat
  /-- Whether refinement worked on a sample. -/
  expanded : Bool
  deriving DecidableEq, Repr

namespace Clustered

/-- Whether there are fewer centroids than asked for. -/
def isShort (clustered : Clustered) : Bool :=
  clustered.centroids.length < clustered.requested

/-- The centroid of the point with an identifier. -/
def centroidOf? (clustered : Clustered) (pointId : Int) : Option Nat :=
  (clustered.assignments.find? fun a => a.pointId == pointId).map Assignment.centroidId

end Clustered

namespace Clustering

variable {σ ρ : Type} [RandomSource ρ] (clustering : Clustering σ) (store : PointStore σ ρ)

/-- How centroids are seeded. -/
def seedPlan : SeedPlan where
  k := clustering.k
  confidence := clustering.settings.confidence
  exponent := clustering.settings.exponent

/-- When refinement stops. -/
def limits : Limits where
  maxIterations := clustering.settings.maxIterations
  changeLimit := clustering.settings.changeLimit

/-! ## The stages -/

/-- Checks the settings and the number of clusters against the population, and
answers its size. -/
def validate : Procedure σ ρ Nat := do
  Procedure.check clustering.settings.validate
  if clustering.k = 0 then
    Procedure.fail (.invalidArgument .noCentroids)
  else
    let population ← store.askCount
    if population = 0 then
      Procedure.fail .emptyInput
    else if population ≤ clustering.k then
      Procedure.fail (.invalidArgument (.population population clustering.k))
    else
      return population

/-- Seeds centroids. -/
def seed : Procedure σ ρ Seeding := do
  Procedure.report (.seeding clustering.k)
  clustering.seedPlan.seed store

/-- Accepts a seeding, short ones only if the settings allow it. -/
def accept (seeding : Seeding) : Procedure σ ρ Unit := do
  if seeding.isShort then
    if !clustering.settings.allowShortfall then
      Procedure.check seeding.ensureComplete
    Procedure.report (.fewerCentroids clustering.k seeding.achieved)

/-- The size of the sample to refine on: never fewer points than clusters. -/
def sampleSize : Except Error Nat := do
  let size ← workingSampleSize clustering.k clustering.settings.confidence
    clustering.settings.perCluster clustering.settings.maxSample
  return max size clustering.k

/-- The points to refine on, and whether they are a sample. -/
def workingSet (population : Nat) : Procedure σ ρ (List Point × Bool) := do
  let size ← Procedure.check clustering.sampleSize
  if clustering.settings.sampling && size < population then
    Procedure.report (.sampledWorkingSet size population)
    return (← store.drawSample size, true)
  else
    Procedure.report (.fullWorkingSet population)
    return (← store.scanAll, false)

/-- The assignment of all points after refinement on a sample. -/
def expandSample (refinement : Refinement) : Procedure σ ρ (List Assignment × Option Float) := do
  Procedure.report .expanding
  let expansion ← Procedure.checkpointed refinement.checkpoint
    (store.expand clustering.withFit refinement.centroids)
  return (expansion.assignments, expansion.fit)

/-- The assignment of all points after refinement on all of them: the labels of
the last iteration. -/
def labelAll (working : List Point) (refinement : Refinement) :
    Procedure σ ρ (List Assignment × Option Float) := do
  let labelled := working.zip refinement.labels
  let assignments := labelled.map fun (point, label) => point.assignTo label
  if clustering.withFit then
    let fit ← store.goodnessOfFit (labelled.map fun (point, label) => (point.position, label))
      refinement.centroids
    return (assignments, some fit)
  else
    return (assignments, none)

/-! ## Entry points -/

/-- Clusters the points of a store whose calls are as they are, with means that may
overlap. -/
def fitUntimedWith (overlaps : Overlaps) : Procedure σ ρ Clustered := do
  let population ← clustering.validate store
  let seeding ← clustering.seed store
  clustering.accept seeding
  let (working, sampled) ← clustering.workingSet store population
  let refinement ←
    clustering.limits.refineWith store overlaps clustering.stop working seeding.centroids
  let (assignments, fit) ←
    if sampled then clustering.expandSample store refinement
    else clustering.labelAll store working refinement
  if let some fit := fit then
    Procedure.report (.goodnessOfFit fit)
  return {
    centroids := refinement.centroids
    assignments
    fit
    iterations := refinement.iterations
    reason := refinement.reason
    changeTrace := refinement.changeTrace
    requested := clustering.k
    dead := refinement.dead
    population
    workingSize := working.length
    expanded := sampled }

/-- Clusters the points of a store whose calls are as they are. -/
def fitUntimed : Procedure σ ρ Clustered :=
  clustering.fitUntimedWith store .none

/-- Clusters the points of a store, each call under the time limit of the
settings, with means that may overlap. -/
def fitWith (overlaps : Overlaps) : Procedure σ ρ Clustered :=
  clustering.fitUntimedWith (store.timed clustering.settings.timeout) overlaps

/-- Clusters the points of a store, each call under the time limit of the
settings. -/
def fit : Procedure σ ρ Clustered :=
  clustering.fitUntimed (store.timed clustering.settings.timeout)

/-- Seeds centroids without refining them.  A shortfall is no error here. -/
def seedCentroids : Procedure σ ρ Seeding := do
  let store := store.timed clustering.settings.timeout
  let _ ← clustering.validate store
  clustering.seed store

/-! ## Before refinement

A clustering has four stages before refinement, and what they answer is all that
refinement works on. -/

/-- What a clustering refines. -/
structure Prepared where
  population : Nat
  seeding : Seeding
  working : List Point
  /-- Whether the working set is a sample. -/
  sampled : Bool
  deriving DecidableEq, Repr

/-- The stages before refinement. -/
def prepare : Procedure σ ρ Prepared := do
  let population ← clustering.validate store
  let seeding ← clustering.seed store
  clustering.accept seeding
  let loaded ← clustering.workingSet store population
  return ⟨population, seeding, loaded.1, loaded.2⟩

/-- The refinement of what was prepared, with means that may overlap. -/
def refinePreparedWith (overlaps : Overlaps) (prepared : Prepared) : Procedure σ ρ Refinement :=
  clustering.limits.refineWith store overlaps clustering.stop prepared.working
    prepared.seeding.centroids

/-- The refinement of what was prepared. -/
abbrev refinePrepared (prepared : Prepared) : Procedure σ ρ Refinement :=
  clustering.refinePreparedWith store .none prepared

/-! ## The calls of a clustering -/

/-- A clustering with a stop signal of the recorded store. -/
def recorded (clustering : Clustering σ) : Clustering (Recorded σ) where
  k := clustering.k
  settings := clustering.settings
  withFit := clustering.withFit
  stop := clustering.stop.recorded

/-- The calls of a clustering whose means may overlap, in the order in which they take
effect. -/
def callsWith (overlaps : Overlaps) (session : Session σ ρ) : List Call :=
  (clustering.recorded.fitWith store.recorded overlaps (session.recording [])).2.store.calls

/-- The calls of a clustering. -/
def calls (session : Session σ ρ) : List Call :=
  (clustering.recorded.fit store.recorded (session.recording [])).2.store.calls

end Clustering

end SampledKmeans
