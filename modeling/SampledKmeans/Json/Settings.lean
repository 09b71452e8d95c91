import SampledKmeans.Json.Row
import SampledKmeans.Settings

/-!
# Settings as JSON

A document names the settings that differ from the defaults.  Settings are read
without being checked; `Settings.ofText` checks them as well.
-/

namespace SampledKmeans

namespace Json

/-- The names of the settings, in the order in which they are written. -/
def settingNames : List String :=
  ["sampling", "per_cluster_sample", "max_sample_size", "change_pct_limit", "max_iterations",
    "seed_confidence", "seed_exponent", "seed", "storage_timeout_ms", "allow_shortfall"]

/-- Reads a truth value. -/
def bool? : Json → Option Bool
  | .bool value => some value
  | _ => none

/-- Reads a count that may be `null`. -/
def wordOrNull? : Json → Option (Option UInt64)
  | .null => some none
  | value => (nat? maxCount value).map fun n => some (UInt64.ofNat n)

/-- A count that may be `null`. -/
def ofWordOrNull : Option UInt64 → Json
  | none => .null
  | some n => ofNat n.toNat

/-- Reads a field with a reader of its type; a missing field has its default. -/
def orDefault {α : Type} (read : Json → Option α) (default : α) : Option Json → Option α
  | none => some default
  | some value => read value

/-- The written form of settings. -/
def ofSettings (settings : Settings) : Json :=
  record (settingNames.zip [
    .bool settings.sampling,
    ofNat settings.perCluster,
    ofNat settings.maxSample,
    ofFloat settings.changeLimit,
    ofNat settings.maxIterations,
    ofFloat settings.confidence,
    ofFloat settings.exponent,
    ofWordOrNull settings.seed,
    ofWordOrNull settings.timeoutMs,
    .bool settings.allowShortfall])

/-- Reads settings. -/
def settings? (value : Json) : Option Settings := do
  let default : Settings := {}
  match ← optionalFields? settingNames value with
  | [sampling, perCluster, maxSample, changeLimit, maxIterations, confidence, exponent, seed,
      timeoutMs, allowShortfall] =>
    return {
      sampling := ← orDefault bool? default.sampling sampling
      perCluster := ← orDefault (nat? maxCount) default.perCluster perCluster
      maxSample := ← orDefault (nat? maxCount) default.maxSample maxSample
      changeLimit := ← orDefault float? default.changeLimit changeLimit
      maxIterations := ← orDefault (nat? maxCount) default.maxIterations maxIterations
      confidence := ← orDefault float? default.confidence confidence
      exponent := ← orDefault float? default.exponent exponent
      seed := ← orDefault wordOrNull? default.seed seed
      timeoutMs := ← orDefault wordOrNull? default.timeoutMs timeoutMs
      allowShortfall := ← orDefault bool? default.allowShortfall allowShortfall }
  | _ => none

end Json

/-- Reads settings from a text and checks them; `none` when the text is not a
document of settings. -/
def Settings.ofText? (text : String) : Option (Except Error Settings) :=
  ((Json.parse? text.toList).bind Json.settings?).map fun settings =>
    settings.validate.map fun _ => settings

end SampledKmeans
