import SampledKmeans.Coverage
import SampledKmeans.Duration
import SampledKmeans.Random.ChaCha

/-!
# Settings

What can be tuned in a clustering.  Every setting has a default; whether a
combination can be used is decided by `Settings.validate`.
-/

namespace SampledKmeans

/-- The settings of a clustering. -/
structure Settings where
  /-- Whether to refine on a sample and expand to all points afterwards. -/
  sampling : Bool := true
  /-- The number of sampled points per cluster. -/
  perCluster : Nat := 100
  /-- The greatest size of a sample. -/
  maxSample : Nat := 10000000
  /-- The change fraction below which refinement stops. -/
  changeLimit : Float := 0.001
  /-- The number of iterations that are allowed. -/
  maxIterations : Nat := 20
  /-- The confidence that a sample hits every cluster. -/
  confidence : Float := defaultConfidence
  /-- The exponent of the random weight in seeding. -/
  exponent : Float := 0.2
  /-- The seed of all randomness; without one it comes from the environment. -/
  seed : Option UInt64 := none
  /-- The time limit of each call to a backend, in milliseconds. -/
  timeoutMs : Option UInt64 := none
  /-- Whether to go on with fewer centroids when seeding falls short. -/
  allowShortfall : Bool := false
  deriving DecidableEq, Repr

namespace Settings

/-- Sets the time limit, in whole milliseconds modulo the size of the stored
number. -/
def withTimeout (settings : Settings) (limit : Duration) : Settings :=
  { settings with timeoutMs := some (UInt64.ofNat limit.milliseconds) }

/-- The time limit of each call to a backend. -/
def timeout (settings : Settings) : Option Duration :=
  settings.timeoutMs.map fun ms => Duration.ofMilliseconds ms.toNat

/-- The random source of some settings: the stream of their seed, or the one of
the environment. -/
def randomness (settings : Settings) (environment : ChaCha) : ChaCha :=
  match settings.seed with
  | some seed => ChaCha.ofSeed seed
  | none => environment

/-- Refuses settings that cannot be used, with the first defect. -/
def validate (settings : Settings) : Except Error Unit :=
  if settings.maxIterations = 0 then
    .error (.settings .iterations)
  else if settings.perCluster = 0 ∨ settings.maxSample = 0 then
    .error (.settings .sampleSizes)
  else if ¬(0.0 ≤ settings.changeLimit ∧ settings.changeLimit < 1.0) then
    .error (.settings (.changeLimit settings.changeLimit))
  else if ¬(0.0 < settings.confidence ∧ settings.confidence < 1.0) then
    .error (.settings (.confidence settings.confidence))
  else if ¬(0.0 < settings.exponent ∧ settings.exponent.isFinite = true) then
    .error (.settings (.exponent settings.exponent))
  else
    .ok ()

end Settings

end SampledKmeans
