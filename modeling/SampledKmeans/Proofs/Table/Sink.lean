import Mathlib.Control.Monad.Basic
import SampledKmeans.Table.Sink

/-!
# The writes that a sink receives

The two writes of a sink are one, `TableSink.apply`, with the table and its rows as an
argument.  `TableSink.recorded` answers as another sink does and keeps a record of the
writes that it receives, whether they succeed or not.

A time limit changes the answer to a write but not what the write does: the answer is
one in time if and only if the write succeeded and did not outlast the limit
(`outcome_apply_timed_eq_ok_iff`).
-/

namespace SampledKmeans

/-- A write of a whole table. -/
inductive TableWrite where
  | centroids (table : String) (rows : List Centroid)
  | assignments (table : String) (rows : List Assignment)
  deriving DecidableEq

/-- The write succeeded, and within the time limit. -/
def Reply.InTime (limit : Option Duration) (reply : Reply Unit) : Prop :=
  reply.outcome = .ok () ∧ ∀ allowed ∈ limit, ¬ allowed < reply.elapsed

instance (limit : Option Duration) (reply : Reply Unit) : Decidable (reply.InTime limit) :=
  inferInstanceAs
    (Decidable (reply.outcome = .ok () ∧ ∀ allowed ∈ limit, ¬ allowed < reply.elapsed))

theorem Reply.outcome_within_eq_ok_iff {operation : String} {limit : Option Duration}
    {reply : Reply Unit} :
    (reply.within operation limit).outcome = .ok () ↔ reply.InTime limit := by
  unfold within InTime
  cases reply.outcome with
  | error error => simp [bind, Except.bind]
  | ok _ =>
      cases limit with
      | none => simp [bind, Except.bind]
      | some allowed => simp [bind, Except.bind]

namespace TableSink

variable {τ : Type}

/-- What a sink answers to a write, and its state after that. -/
def apply (sink : TableSink τ) : TableWrite → τ → Reply Unit × τ
  | .centroids table rows => sink.writeCentroids table rows
  | .assignments table rows => sink.writeAssignments table rows

/-- A sink that answers as another one and records the writes that it receives. -/
def recorded (sink : TableSink τ) : TableSink (τ × List TableWrite) where
  writeCentroids table rows received :=
    let (reply, state) := sink.writeCentroids table rows received.1
    (reply, state, received.2 ++ [.centroids table rows])
  writeAssignments table rows received :=
    let (reply, state) := sink.writeAssignments table rows received.1
    (reply, state, received.2 ++ [.assignments table rows])

variable {sink : TableSink τ} {limit : Option Duration} {write : TableWrite} {state : τ}

theorem apply_recorded (writes : List TableWrite) :
    sink.recorded.apply write (state, writes) =
      ((sink.apply write state).1, (sink.apply write state).2, writes ++ [write]) := by
  cases write <;> rfl

theorem outcome_apply_timed_eq_ok_iff :
    ((sink.timed limit).apply write state).1.outcome = .ok () ↔
      (sink.apply write state).1.InTime limit := by
  cases write <;> exact Reply.outcome_within_eq_ok_iff

end TableSink

/-! ## Tables in memory -/

namespace Tables

variable (tables : Tables) (name other : String)

theorem centroids?_putCentroids_eq (rows : List Centroid) :
    (tables.putCentroids name rows).centroids? other =
      if name = other then some rows else tables.centroids? other := by
  simp [putCentroids, centroids?, Std.TreeMap.getElem?_insert]

theorem assignments?_putAssignments_eq (rows : List Assignment) :
    (tables.putAssignments name rows).assignments? other =
      if name = other then some rows else tables.assignments? other := by
  simp [putAssignments, assignments?, Std.TreeMap.getElem?_insert]

@[simp] theorem centroids?_putAssignments (rows : List Assignment) :
    (tables.putAssignments name rows).centroids? other = tables.centroids? other :=
  rfl

@[simp] theorem assignments?_putCentroids (rows : List Centroid) :
    (tables.putCentroids name rows).assignments? other = tables.assignments? other :=
  rfl

end Tables

end SampledKmeans
