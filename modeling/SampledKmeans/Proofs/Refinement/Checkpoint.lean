import SampledKmeans.Proofs.Refinement.Replay

/-!
# Failures of a refinement

An iteration publishes its centroids, labels and measurement together and at its
end, so that a failure in the middle of it can show nothing of it.  A refinement
fails with a mean that is not answered and in no other way
(`outcome_refine_eq_error_iff_meanFails`), and what the failure shows is what
the run would have answered, had it been capped at the iteration before
(`refine_fails_at_checkpoint`).
-/

namespace SampledKmeans

theorem Error.withCheckpoint_of_not_unavailable {error : Error} {checkpoint : Checkpoint}
    (h : ∀ operation message attached, error ≠ .storageUnavailable operation message attached) :
    error.withCheckpoint checkpoint = error := by
  cases error with
  | storageUnavailable operation message attached => exact absurd rfl (h operation message attached)
  | _ => rfl

namespace Limits

open Procedure

variable {σ ρ : Type} {store : PointStore σ ρ} {limits : Limits} {stop : StopSignal σ}
  {working : List Point} {seeds : List Centroid} {session between : Session σ ρ}
  {progress : Progress} {error : Error}

/-- A mean that is not answered ends the refinement. -/
theorem Reaches.outcome_refine_of_meanFails
    (h : limits.Reaches store stop working seeds session progress between)
    (hadmits : limits.Admits working seeds) (hgoesOn : limits.ending? stop progress between = none)
    (hfails : progress.MeanFails store working between error) :
    (limits.refine store stop working seeds).outcome session =
      .error (.error (error.withCheckpoint progress.checkpoint)) := by
  obtain ⟨after, hadvance⟩ := (h.sound_of_admits hadmits).fails_of_meanFails hfails
  exact h.outcome_refine_of_fails hadmits hgoesOn hadvance

/-- When distances are defined, nothing else does. -/
theorem outcome_refine_eq_error_iff_meanFails (hadmits : limits.Admits working seeds)
    (hmetric : store.HasTotalMetric) {failure : Failure} :
    (limits.refine store stop working seeds).outcome session = .error failure ↔
      ∃ progress between error, limits.Reaches store stop working seeds session progress between ∧
        limits.ending? stop progress between = none ∧
        progress.MeanFails store working between error ∧
        failure = .error (error.withCheckpoint progress.checkpoint) := by
  constructor
  · intro h
    obtain ⟨progress, between, after, hreaches, hgoesOn, hadvance⟩ :=
      (outcome_refine_eq_error_iff hadmits).mp h
    obtain ⟨error, hfails, heq⟩ :=
      (hreaches.sound_of_admits hadmits).meanFails_of_fails hadmits.seeds_pos hmetric hadvance
    exact ⟨progress, between, error, hreaches, hgoesOn, hfails, heq⟩
  · rintro ⟨progress, between, error, hreaches, hgoesOn, hfails, rfl⟩
    exact hreaches.outcome_refine_of_meanFails hadmits hgoesOn hfails

/-- Let a mean not be answered in the iteration that follows `progress`.  Then
the refinement fails.  A storage error keeps its operation and its wording and
shows the state before the iteration in place of what it showed: the seeds, when
it is the first one, and otherwise what the same refinement answers when it is
capped there.  Any other error is reported as it is. -/
theorem refine_fails_at_checkpoint (hadmits : limits.Admits working seeds)
    (hreaches : limits.Reaches store stop working seeds session progress between)
    (hgoesOn : limits.ending? stop progress between = none)
    (hfails : progress.MeanFails store working between error) :
    ∃ shown : Checkpoint,
      shown.iteration = progress.iterations ∧
      (progress.iterations = 0 →
        shown.positions = seeds.map Centroid.position ∧ shown.changeTrace = []) ∧
      (0 < progress.iterations → ∃ shorter,
        ((limits.cappedAt progress.iterations).refine store stop working seeds).outcome session =
          .ok shorter ∧
        shorter.iterations = progress.iterations ∧
        shorter.centroids.map Centroid.id = List.range' 1 seeds.length ∧
        shown.positions = shorter.centroids.map Centroid.position ∧
        shown.changeTrace = shorter.changeTrace) ∧
      (∀ operation message attached, error = .storageUnavailable operation message attached →
        (limits.refine store stop working seeds).outcome session =
          .error (.error (.storageUnavailable operation message (some shown)))) ∧
      ((∀ operation message attached,
          error ≠ .storageUnavailable operation message attached) →
        (limits.refine store stop working seeds).outcome session = .error (.error error)) := by
  have houtcome := hreaches.outcome_refine_of_meanFails hadmits hgoesOn hfails
  refine ⟨progress.checkpoint, rfl, fun hzero => ?_, fun hpos => ?_, ?_, fun hother => ?_⟩
  · rw [hreaches.eq_start_of_iterations_eq_zero hzero]
    exact ⟨rfl, rfl⟩
  · exact ⟨_, hreaches.outcome_refine_cappedAt hadmits hpos, rfl,
      (hreaches.sound_of_admits hadmits).ids_eq, rfl, rfl⟩
  · rintro operation message attached rfl
    exact houtcome
  · rw [houtcome, Error.withCheckpoint_of_not_unavailable hother]

/-- The fourth mean is not answered.  It is that of the second cluster in the
second iteration, when the first cluster has moved already. -/
theorem refine_fails_at_checkpoint_onLine :
    let error : Error := .storageUnavailable "mean" "connection reset" (some ⟨7, [], []⟩)
    let store : PointStore ScriptState SplitMix :=
      Script.store { working := ⟨none, none, none, some 3⟩, error := error } .empty
    let session : Session ScriptState SplitMix := { store := {}, random := {} }
    let working := pointsOnLine [1.0, 2.0, 3.0, 7.0]
    let seeds := centroidsOnLine [1.0, 2.0, 50.0]
    ∃ progress between, ({} : Limits).Admits working seeds ∧
      ({} : Limits).Reaches store .never working seeds session progress between ∧
      ({} : Limits).ending? .never progress between = none ∧
      progress.MeanFails store working between error ∧
      (({} : Limits).refine store .never working seeds).outcome session =
        .error (.error (.storageUnavailable "mean" "connection reset"
          (some ⟨1, [.onLine 1.0, .onLine 4.0, .onLine 50.0], []⟩))) := by
  intro error store session working seeds
  let progress : Progress := {
    iterations := 1, centroids := centroidsOnLine [1.0, 4.0, 50.0], labels := [1, 2, 2, 2],
    counts := some [1, 3, 0], changeTrace := [], dead := [3] }
  let between := (((Progress.start seeds).advance store working).runIn session).2
  let recenterFirst := [⟨1, .onLine 1.0⟩].mapM (store.recenter working [1, 1, 2, 2])
  let moved := (recenterFirst.runIn (progress.announced between)).2
  have hadmits : ({} : Limits).Admits working seeds :=
    ⟨List.cons_ne_nil _ _, List.cons_ne_nil _ _, by decide, rfl⟩
  have hanswers :
      ((Progress.start seeds).advance store working).outcome session = .ok progress := by
    decide +kernel
  have hreaches : ({} : Limits).Reaches store .never working seeds session progress between :=
    .next .start rfl (answers_of_outcome_eq hanswers)
  have hgoesOn : ({} : Limits).ending? .never progress between = none := rfl
  have hlabels : store.labels? working progress.centroids = some [1, 1, 2, 2] := by
    decide +kernel
  have hmoved : recenterFirst.outcome (progress.announced between) = .ok [⟨1, .onLine 1.5⟩] := by
    decide +kernel
  have hmean : (store.mean (membersOf working [1, 1, 2, 2] 2) moved.store).1.outcome =
      .error error := by
    decide +kernel
  have hfails : progress.MeanFails store working between error := by
    refine ⟨[1, 1, 2, 2], [⟨1, .onLine 1.0⟩], ⟨2, .onLine 4.0⟩, [⟨3, .onLine 50.0⟩],
      [⟨1, .onLine 1.5⟩], moved, ?_, rfl, answers_of_outcome_eq hmoved, List.cons_ne_nil _ _, hmean⟩
    rw [PointStore.assign_eq, answers_expect_iff]
    exact ⟨hlabels, rfl⟩
  have hshorter : ((({} : Limits).cappedAt 1).refine store .never working seeds).outcome session =
      .ok (progress.finish (.iterationLimit 1)) := by
    decide +kernel
  obtain ⟨shown, hiteration, -, hstate, hunavailable, -⟩ :=
    refine_fails_at_checkpoint hadmits hreaches hgoesOn hfails
  obtain ⟨shorter, houtcome, -, -, hpositions, htrace⟩ := hstate (by decide)
  cases hshorter.symm.trans houtcome
  refine ⟨progress, between, hadmits, hreaches, hgoesOn, hfails, ?_⟩
  rw [hunavailable _ _ _ rfl, show shown = ⟨1, _, _⟩ from
    congr (congr (congrArg Checkpoint.mk hiteration) hpositions) htrace]
  rfl

end Limits

end SampledKmeans
