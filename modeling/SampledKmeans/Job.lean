import SampledKmeans.Clustering
import SampledKmeans.Table.Name

/-!
# Jobs

A job asks for the points of a named source to be clustered and for the result
to be written to two tables.  Its report names the tables and holds the result;
the summary is the same report for people.
-/

namespace SampledKmeans

/-- What is asked for. -/
structure Job where
  /-- The point source, as schema and table. -/
  source : String
  /-- The number of clusters. -/
  k : Nat
  /-- Whether to compute the goodness of fit. -/
  withFit : Bool := true
  /-- The identifier of the job; one is generated when it is empty. -/
  id : String := ""
  /-- The location of the output tables; `public` when it is empty. -/
  location : String := ""

/-- The names that a job uses. -/
structure JobNames where
  source : TableName
  id : String
  centroidsTable : TableName
  pointsTable : TableName
  deriving DecidableEq, Repr

/-- The report on a job. -/
structure JobReport where
  names : JobNames
  result : Clustered

/-- The report on a seeding. -/
structure SeedingReport where
  source : String
  seeding : Seeding

/-! ## Names -/

/-- The location of the output tables of jobs that give none. -/
def defaultLocation : String := "public"

namespace Job

/-- The location of the output tables. -/
def outputLocation (job : Job) : String :=
  if job.location.isEmpty then defaultLocation else job.location

/-- The names of a job with an identifier. -/
def namesWith (job : Job) (source : TableName) (id : String) : JobNames where
  source := source
  id := id
  centroidsTable := .centroids job.outputLocation id
  pointsTable := .points job.outputLocation id

end Job

/-! ## Summaries -/

/-- The summary of a job, given the text of the time it took. -/
def JobReport.summary (report : JobReport) (elapsed : String) : String :=
  let result := report.result
  let centroids := toString result.centroids.length
  let fit := match result.fit with
    | some fit => Decimal.inMessage fit
    | none => "not computed"
  let shortfall :=
    if result.isShort then
      " * requested " ++ toString result.requested ++ " centroids, but " ++ centroids ++
        " have been seeded.\n"
    else
      ""
  "Finished k-means clustering on " ++ report.names.source.text ++ " table.\n" ++
  "Results:\n" ++
  " * " ++ centroids ++ " centroids (goodness of fit = " ++ fit ++ ").\n" ++
  shortfall ++
  " * " ++ toString result.iterations ++ " iterations; exit reason: " ++ result.reason.message ++
    ".\n" ++
  "Output:\n" ++
  " * table : " ++ report.names.centroidsTable.text ++ "\n" ++
  " * table : " ++ report.names.pointsTable.text ++ "\n" ++
  "Time elapsed: " ++ elapsed ++ ".\n"

/-- The summary of a seeding, given the text of the time it took. -/
def SeedingReport.summary (report : SeedingReport) (elapsed : String) : String :=
  "Finished seeding " ++ toString report.seeding.achieved ++ " centroids for " ++ report.source ++
    " table/view.\n" ++
  "Time elapsed: " ++ elapsed ++ ".\n"

end SampledKmeans
