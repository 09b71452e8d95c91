import Std.Data.TreeMap
import SampledKmeans.Point
import SampledKmeans.Session

/-!
# Result sinks

A job hands two tables to a sink: its centroids and its assignments.  Tables are
replaced as a whole.  `Tables` keeps them in memory; a `SinkScript` lets writes
into memory fail or take their time.
-/

namespace SampledKmeans

/-- The writes that a sink accepts, with a state `τ` of its own. -/
structure TableSink (τ : Type) where
  /-- Replaces a table of centroids. -/
  writeCentroids : String → List Centroid → τ → Reply Unit × τ
  /-- Replaces a table of assignments. -/
  writeAssignments : String → List Assignment → τ → Reply Unit × τ

/-- Tables in memory, by name. -/
structure Tables where
  centroids : Std.TreeMap String (List Centroid) := ∅
  assignments : Std.TreeMap String (List Assignment) := ∅

namespace Tables

/-- Whether no table has been written. -/
def isEmpty (tables : Tables) : Bool :=
  tables.centroids.isEmpty && tables.assignments.isEmpty

/-- The centroid table of a name, if it has been written. -/
def centroids? (tables : Tables) (name : String) : Option (List Centroid) :=
  tables.centroids[name]?

/-- The assignment table of a name, if it has been written. -/
def assignments? (tables : Tables) (name : String) : Option (List Assignment) :=
  tables.assignments[name]?

/-- Replaces a table of centroids. -/
def putCentroids (tables : Tables) (name : String) (rows : List Centroid) : Tables :=
  { tables with centroids := tables.centroids.insert name rows }

/-- Replaces a table of assignments. -/
def putAssignments (tables : Tables) (name : String) (rows : List Assignment) : Tables :=
  { tables with assignments := tables.assignments.insert name rows }

@[simp] theorem centroids?_putCentroids (tables : Tables) (name : String) (rows : List Centroid) :
    (tables.putCentroids name rows).centroids? name = some rows := by
  simp [putCentroids, centroids?]

@[simp] theorem assignments?_putAssignments (tables : Tables) (name : String)
    (rows : List Assignment) : (tables.putAssignments name rows).assignments? name = some rows := by
  simp [putAssignments, assignments?]

/-- The sink that keeps its tables in memory. -/
def sink : TableSink Tables where
  writeCentroids name rows tables := (.ok (), tables.putCentroids name rows)
  writeAssignments name rows tables := (.ok (), tables.putAssignments name rows)

end Tables

/-- What the writes into memory are to do. -/
structure SinkScript where
  /-- The error of every write of centroids. -/
  centroidsError : Option Error := none
  /-- The error of every write of assignments. -/
  assignmentsError : Option Error := none
  /-- The delay of each write, in milliseconds. -/
  delay : Nat := 0

namespace SinkScript

/-- The answer to a write, and the tables after it. -/
def reply (script : SinkScript) (error : Option Error) (before after : Tables) :
    Reply Unit × Tables :=
  match error with
  | some error => ({ outcome := .error error }, before)
  | none => ({ outcome := .ok (), elapsed := ⟨script.delay * 10 ^ 6 + 1⟩ }, after)

/-- A sink in memory that follows a script. -/
def sink (script : SinkScript) : TableSink Tables where
  writeCentroids name rows tables :=
    script.reply script.centroidsError tables (tables.putCentroids name rows)
  writeAssignments name rows tables :=
    script.reply script.assignmentsError tables (tables.putAssignments name rows)

end SinkScript

namespace TableSink

variable {τ : Type}

/-- A sink whose writes are bounded by a time limit.  A write that outlasts the
limit is a storage error, although it was made; the errors of the sink itself
stay as they are. -/
def timed (limit : Option Duration) (sink : TableSink τ) : TableSink τ where
  writeCentroids name rows state :=
    let (reply, state) := sink.writeCentroids name rows state
    (reply.within "write_centroids" limit, state)
  writeAssignments name rows state :=
    let (reply, state) := sink.writeAssignments name rows state
    (reply.within "write_assignments" limit, state)

end TableSink

end SampledKmeans
