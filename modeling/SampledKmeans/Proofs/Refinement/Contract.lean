import SampledKmeans.Proofs.Number.Sign
import SampledKmeans.Proofs.Refinement.Run

/-!
# What refinement promises

Nothing is asked of a store but that its distances are defined: they may be
negative, infinite or no numbers, and any mean may fail.  Refinement then ends
after at most as many iterations as it is allowed, reads no list beyond its end,
and answers a refinement that is well formed.
-/

namespace SampledKmeans

/-- What holds of every refinement of `k` seeds over a working set. -/
structure Refinement.WellFormed (working : List Point) (k : Nat) (result : Refinement) : Prop where
  length_changeTrace : result.changeTrace.length = result.iterations - 1
  /-- A measurement is the fraction that a number of moved points is of the
  working set, capped at one. -/
  changeTrace_mem : ∀ fraction ∈ result.changeTrace,
    (∃ moved : Nat, fraction = smaller (Float.ofNat moved / Float.ofNat working.length) 1.0) ∧
      0.0 ≤ fraction ∧ fraction ≤ 1.0
  length_labels : result.labels.length = working.length
  label_range : ∀ label ∈ result.labels, 1 ≤ label ∧ label ≤ k
  length_centroids : result.centroids.length = k
  ids_eq : result.centroids.map Centroid.id = List.range' 1 k
  dead_pairwise : result.dead.Pairwise (· < ·)
  mem_dead_iff : ∀ id, id ∈ result.dead ↔ (1 ≤ id ∧ id ≤ k) ∧ id ∉ result.labels

variable {σ ρ : Type} {store : PointStore σ ρ} {limits : Limits} {stop : StopSignal σ}
  {working : List Point} {seeds : List Centroid} {session : Session σ ρ} {k : Nat}

theorem Progress.IsChangeFraction.bounds {total : Nat} {fraction : Float}
    (h : IsChangeFraction total fraction) : 0.0 ≤ fraction ∧ fraction ≤ 1.0 := by
  obtain ⟨moved, rfl⟩ := h
  exact ⟨Number.zero_le_smaller_quotient moved total, Number.smaller_quotient_le_one moved total⟩

/-- A sound state that comes after an iteration makes a well formed
refinement. -/
theorem Progress.Sound.wellFormed_finish {progress : Progress}
    (hsound : progress.Sound working k) (hpos : 0 < progress.iterations) (reason : StopReason) :
    (progress.finish reason).WellFormed working k := by
  have hassigned := hsound.assigned hpos
  exact {
    length_changeTrace := hsound.length_changeTrace
    changeTrace_mem := fun fraction hmem =>
      ⟨hsound.changeTrace_mem fraction hmem, (hsound.changeTrace_mem fraction hmem).bounds⟩
    length_labels := hassigned.length_labels
    label_range := fun label hmem => mem_clusterLabels.mp (hassigned.label_mem label hmem)
    length_centroids := hsound.length_centroids
    ids_eq := hsound.ids_eq
    dead_pairwise := by
      simp only [finish, hassigned.dead_eq]
      exact (clusterLabels_pairwise k).filter _
    mem_dead_iff := fun id => by
      simp [finish, hassigned.dead_eq] }

namespace Limits

open Procedure

/-- The iterations that `iterate` is given beyond the limit are never used. -/
theorem runIn_iterate_eq_of_le (hmax : 0 < limits.maxIterations) {total : Nat}
    (htotal : limits.maxIterations ≤ total) :
    (limits.iterate store stop working total (Progress.start seeds)).runIn session =
      (limits.iterate store stop working limits.maxIterations (Progress.start seeds)).runIn
        session := by
  rcases ReachesWith.start.exists_ending_or_failure with
    ⟨_, _, _, hreaches, hending⟩ | ⟨_, _, _, _, hreaches, hgoesOn, hfails⟩
  · exact (hreaches.answers_iterate hmax hending htotal).trans
      (hreaches.answers_iterate hmax hending (Nat.le_refl _)).symm
  · exact (hreaches.fails_iterate hmax hgoesOn hfails htotal).trans
      (hreaches.fails_iterate hmax hgoesOn hfails (Nat.le_refl _)).symm

/-- A refinement that fails reports the error of a mean. -/
theorem exists_error_of_outcome_refine (hadmits : limits.Admits working seeds)
    (hmetric : store.HasTotalMetric) {failure : Failure}
    (h : (limits.refine store stop working seeds).outcome session = .error failure) :
    ∃ error, failure = .error error := by
  obtain ⟨last, between, after, hreaches, -, hfails⟩ := (outcome_refine_eq_error_iff hadmits).mp h
  obtain ⟨error, -, heq⟩ :=
    (hreaches.sound_of_admits hadmits).meanFails_of_fails hadmits.seeds_pos hmetric hfails
  exact ⟨_, heq⟩

/-- For all distances and means, all working sets and all numbered seeds, and
whenever the caller asks to stop: refinement halts, reads no list beyond its end
unless a distance does, and what it answers is well formed and within the
iteration limit. -/
theorem refine_halts_wellFormed (hworking : working ≠ []) (hseeds : seeds ≠ [])
    (hids : seeds.map Centroid.id = List.range' 1 seeds.length)
    (hmax : 1 ≤ limits.maxIterations) (stop : StopSignal σ) (session : Session σ ρ) :
    (∀ total, limits.maxIterations ≤ total →
      (limits.iterate store stop working total (Progress.start seeds)).runIn session =
        (limits.iterate store stop working limits.maxIterations (Progress.start seeds)).runIn
          session) ∧
    (store.HasTotalMetric → ∀ failure,
      (limits.refine store stop working seeds).outcome session = .error failure →
        ∃ error, failure = .error error) ∧
    ∀ result, (limits.refine store stop working seeds).outcome session = .ok result →
      1 ≤ result.iterations ∧ result.iterations ≤ limits.maxIterations ∧
        result.WellFormed working seeds.length := by
  have hadmits : limits.Admits working seeds := ⟨hworking, hseeds, hmax, hids⟩
  refine ⟨fun total htotal => runIn_iterate_eq_of_le hmax htotal,
    fun hmetric _ h => exists_error_of_outcome_refine hadmits hmetric h, fun result h => ?_⟩
  obtain ⟨last, after, reason, hreaches, hending, rfl⟩ := (outcome_refine_eq_ok_iff hadmits).mp h
  have hpos := iterations_pos_of_ending? hreaches hmax hending
  exact ⟨hpos, hreaches.iterations_le,
    (hreaches.sound_of_admits hadmits).wellFormed_finish hpos reason⟩

/-- Without a distance that is a number all points go to the first centroid. -/
theorem refine_halts_wellFormed_notANumber :
    let store : PointStore ScriptState SplitMix := Script.store { metric := .notANumber } .empty
    let working := pointsOnLine [1.0, 4.0]
    let seeds := centroidsOnLine [1.0, 4.0]
    store.HasTotalMetric ∧ ∃ result : Refinement,
      (({} : Limits).refine store .never working seeds).outcome { store := {}, random := {} } =
          .ok result ∧
        1 ≤ result.iterations ∧ result.iterations ≤ 20 ∧ result.WellFormed working 2 := by
  intro store working seeds
  have hmetric : store.HasTotalMetric := fun _ _ => ⟨_, rfl⟩
  have hok : (({} : Limits).refine store .never working seeds).outcome
      { store := {}, random := {} } = .ok {
        centroids := centroidsOnLine [2.5, 4.0], labels := [1, 1], iterations := 2,
        reason := .belowLimit 0.001, changeTrace := [0.0], dead := [2] } := by
    decide +kernel
  have hmax : 1 ≤ ({} : Limits).maxIterations := by decide
  have hworking : working ≠ [] := List.cons_ne_nil _ _
  have hseeds : seeds ≠ [] := List.cons_ne_nil _ _
  exact ⟨hmetric, _, hok,
    (refine_halts_wellFormed hworking hseeds rfl hmax .never _).2.2 _ hok⟩

end Limits

end SampledKmeans
