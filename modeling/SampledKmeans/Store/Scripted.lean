import SampledKmeans.Store.Population

/-!
# Scripted stores

A scripted store rehearses a backend: it answers from a population in memory,
but follows a script that says which samples it returns, which calls and scan
items fail and how, how long they take, and when the caller asks to stop.  It
records the calls it was given.
-/

namespace SampledKmeans

/-- A call that a scripted store records. -/
inductive RecordedCall where
  | sample (n : Nat)
  | scan
  | count
  deriving DecidableEq, Repr

/-- The metric of a scripted store. -/
inductive ScriptedMetric where
  /-- The Euclidean distance. -/
  | euclidean
  /-- The Euclidean distance with its sign changed. -/
  | negated
  /-- A value that is not a number, for any two positions. -/
  | notANumber
  /-- Zero, for any two positions. -/
  | zero
  deriving DecidableEq, Repr

/-- The distance under a scripted metric. -/
def ScriptedMetric.distance? (metric : ScriptedMetric) (a b : SparseVector) : Option Float :=
  match metric with
  | .euclidean => SparseVector.distance? a b
  | .negated => (SparseVector.distance? a b).map fun d => -d
  | .notANumber => some (0.0 / 0.0)
  | .zero => some 0.0

/-- One value for each kind of call. -/
structure PerCall (α : Type) where
  sample : α
  scan : α
  count : α
  mean : α

/-- What a scripted store is to do. -/
structure Script where
  metric : ScriptedMetric := .euclidean
  /-- The positions that the successful samples return, one list each. -/
  samples : Option (List (List Nat)) := none
  /-- The number of calls of each kind that work; later ones fail. -/
  working : PerCall (Option Nat) := ⟨none, none, none, none⟩
  /-- The number of the item that fails in each scan. -/
  failingItem : Option Nat := none
  /-- The number of scans in which no item fails. -/
  sparedScans : Nat := 0
  /-- The error of every failure. -/
  error : Error := .other "connection reset"
  /-- The delay of each call, in milliseconds. -/
  delay : PerCall Nat := ⟨0, 0, 0, 0⟩
  /-- The delay of each scan item, in milliseconds. -/
  itemDelay : Nat := 0
  /-- The number of mean calls with which the caller asks to stop. -/
  stopAfterMeans : Option Nat := none

/-- What has happened to a scripted store so far. -/
structure ScriptState where
  /-- The number of calls of each kind. -/
  calls : PerCall Nat := ⟨0, 0, 0, 0⟩
  /-- The samples that were answered. -/
  answeredSamples : Nat := 0
  /-- The calls recorded, in order. -/
  record : Array RecordedCall := #[]
  /-- Whether the caller has asked to stop. -/
  stopped : Bool := false

namespace Script

variable {ρ : Type} [Sampler ρ]

/-- The time that a call with a delay takes. -/
def elapsed (delay : Nat) : Duration :=
  ⟨(Duration.ofMilliseconds delay).nanoseconds + 1⟩

/-- Whether a call fails after the given number of earlier ones. -/
def fails (working : Option Nat) (earlier : Nat) : Bool :=
  working.any (· ≤ earlier)

/-- A reply after a delay: the script's error once the working calls are used
up, and the given outcome before. -/
def reply {α : Type} (script : Script) (working : Option Nat) (earlier delay : Nat)
    (outcome : Except Error α) : Reply α where
  outcome := if fails working earlier then .error script.error else outcome
  elapsed := elapsed delay

/-- The items of a scan, after the given number of earlier scans. -/
def items (script : Script) (population : Population) (earlier : Nat) : List (Reply Point) :=
  population.points.toList.zipIdx.map fun (point, i) =>
    let failing := script.sparedScans ≤ earlier && script.failingItem == some i
    { outcome := if failing then .error script.error else .ok point
      elapsed := elapsed script.itemDelay }

/-- A store that answers from a population as the script says. -/
def store (script : Script) (population : Population) : PointStore ScriptState ρ where
  sample n source state :=
    let earlier := state.calls.sample
    let state := { state with
      calls := { state.calls with sample := earlier + 1 }
      record := state.record.push (.sample n) }
    if fails script.working.sample earlier then
      (script.reply script.working.sample earlier script.delay.sample (.ok []), source, state)
    else
      let answered := state.answeredSamples
      let state := { state with answeredSamples := answered + 1 }
      let (points, source) := match script.samples with
        | some lists => (population.pointsAt (lists[answered]?.getD []), source)
        | none => population.sample n source
      (script.reply script.working.sample earlier script.delay.sample (.ok points), source, state)
  scan state :=
    let earlier := state.calls.scan
    (script.reply script.working.scan earlier script.delay.scan
        (.ok (script.items population earlier)),
      { state with
        calls := { state.calls with scan := earlier + 1 }
        record := state.record.push .scan })
  count state :=
    let earlier := state.calls.count
    (script.reply script.working.count earlier script.delay.count (.ok population.size),
      { state with
        calls := { state.calls with count := earlier + 1 }
        record := state.record.push .count })
  metric := script.metric.distance?
  mean positions state :=
    let earlier := state.calls.mean
    let stops := !fails script.working.mean earlier &&
      script.stopAfterMeans.any (· ≤ earlier + 1)
    (script.reply script.working.mean earlier script.delay.mean (meanOf positions),
      { state with
        calls := { state.calls with mean := earlier + 1 }
        stopped := state.stopped || stops })

end Script

end SampledKmeans
