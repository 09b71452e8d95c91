import SampledKmeans.Refinement
import SampledKmeans.Proofs.Procedure.Overlap
import SampledKmeans.Proofs.Refinement.Clusters

/-!
# One iteration

`answers_advanceWith_iff` says all that an iteration does when it succeeds, and
`fails_advance_iff` in which ways it may fail when its means do not overlap.  `Sound`
is the invariant of a refinement: what holds of its state between any two iterations,
whatever the distances and the means are and however the means overlap.  It is what
makes counting labels safe, so that an iteration in a sound state fails by a mean that
is not answered and in no other way (`Sound.meanFails_of_fails`).
-/

namespace SampledKmeans.Progress

open Procedure

variable {σ ρ : Type} {store : PointStore σ ρ} {overlaps : Overlaps} {working : List Point}
  {progress next : Progress} {session after : Session σ ρ} {failure : Failure}

/-- A session in which the next iteration has been reported. -/
def announced (progress : Progress) (session : Session σ ρ) : Session σ ρ :=
  { session with events := session.events.push (.iteration (progress.iterations + 1)) }

theorem answers_advanceWith_iff :
    (progress.advanceWith store overlaps working).Answers session next after ↔
      ∃ labels counts centroids,
        store.labels? working progress.centroids = some labels ∧
          labelCounts? labels progress.centroids.length = some counts ∧
          (mapOverlapping (overlaps progress.iterations) (store.recenter working labels)
            progress.centroids).Answers (progress.announced session) centroids after ∧
          next = progress.record working.length centroids labels counts := by
  simp only [advanceWith, PointStore.assign_eq, answers_bind_iff, answers_report_iff,
    answers_expect_iff, answers_checkpointed_iff, answers_pure_iff]
  constructor
  · rintro ⟨_, _, rfl, labels, _, ⟨hlabels, rfl⟩, counts, _, ⟨hcounts, rfl⟩, centroids, _, hmeans,
      rfl, rfl⟩
    exact ⟨labels, counts, centroids, hlabels, hcounts, hmeans, rfl⟩
  · rintro ⟨labels, counts, centroids, hlabels, hcounts, hmeans, rfl⟩
    exact ⟨(), _, rfl, labels, _, ⟨hlabels, rfl⟩, counts, _, ⟨hcounts, rfl⟩, centroids, _, hmeans,
      rfl, rfl⟩

/-! ### Without overlap -/

theorem advance_eq (store : PointStore σ ρ) (working : List Point) (progress : Progress) :
    progress.advance store working = (do
      report (.iteration (progress.iterations + 1))
      let labels ← store.assign working progress.centroids
      let counts ← expect (labelCounts? labels progress.centroids.length)
      let centroids ← checkpointed progress.checkpoint
        (progress.centroids.mapM (store.recenter working labels))
      return progress.record working.length centroids labels counts) := by
  simp only [advance, advanceWith, Overlaps.none, mapOverlapping_of_ahead_eq_nil]

theorem answers_advance_iff :
    (progress.advance store working).Answers session next after ↔
      ∃ labels counts centroids,
        store.labels? working progress.centroids = some labels ∧
          labelCounts? labels progress.centroids.length = some counts ∧
          (progress.centroids.mapM (store.recenter working labels)).Answers
            (progress.announced session) centroids after ∧
          next = progress.record working.length centroids labels counts := by
  simp only [answers_advanceWith_iff, Overlaps.none, mapOverlapping_of_ahead_eq_nil]

theorem fails_advance_iff :
    (progress.advance store working).Fails session failure after ↔
      (store.labels? working progress.centroids = none ∧ failure = .outOfRange ∧
        after = progress.announced session) ∨
      ∃ labels, store.labels? working progress.centroids = some labels ∧
        ((labelCounts? labels progress.centroids.length = none ∧ failure = .outOfRange ∧
          after = progress.announced session) ∨
        ∃ counts cause, labelCounts? labels progress.centroids.length = some counts ∧
          (progress.centroids.mapM (store.recenter working labels)).Fails
            (progress.announced session) cause after ∧
          failure = cause.mapError (Error.withCheckpoint progress.checkpoint)) := by
  simp only [advance_eq, PointStore.assign_eq, fails_bind_iff, answers_report_iff,
    not_fails_report, answers_expect_iff, fails_expect_iff, fails_checkpointed_iff,
    not_fails_pure, and_false, exists_false, or_false, false_or]
  constructor
  · rintro ⟨_, _, rfl, ⟨hlabels, rfl, rfl⟩ | ⟨labels, _, ⟨hlabels, rfl⟩,
      ⟨hcounts, rfl, rfl⟩ | ⟨counts, _, ⟨hcounts, rfl⟩, cause, hmeans, rfl⟩⟩⟩
    · exact .inl ⟨hlabels, rfl, rfl⟩
    · exact .inr ⟨labels, hlabels, .inl ⟨hcounts, rfl, rfl⟩⟩
    · exact .inr ⟨labels, hlabels, .inr ⟨counts, cause, hcounts, hmeans, rfl⟩⟩
  · rintro (⟨hlabels, rfl, rfl⟩ | ⟨labels, hlabels,
      ⟨hcounts, rfl, rfl⟩ | ⟨counts, cause, hcounts, hmeans, rfl⟩⟩)
    · exact ⟨(), _, rfl, .inl ⟨hlabels, rfl, rfl⟩⟩
    · exact ⟨(), _, rfl, .inr ⟨labels, _, ⟨hlabels, rfl⟩, .inl ⟨hcounts, rfl, rfl⟩⟩⟩
    · exact ⟨(), _, rfl, .inr ⟨labels, _, ⟨hlabels, rfl⟩,
        .inr ⟨counts, _, ⟨hcounts, rfl⟩, cause, hmeans, rfl⟩⟩⟩

/-! ### Either way -/

theorem iterations_of_answers
    (h : (progress.advanceWith store overlaps working).Answers session next after) :
    next.iterations = progress.iterations + 1 := by
  obtain ⟨_, _, _, -, -, -, rfl⟩ := answers_advanceWith_iff.mp h
  rfl

/-! ## The measurement of an iteration -/

theorem changeTrace_record_of_uncounted {total : Nat} {centroids : List Centroid}
    {labels counts : List Nat} (h : progress.counts = none) :
    (progress.record total centroids labels counts).changeTrace = progress.changeTrace := by
  simp only [record, h]

theorem changeTrace_record_of_counted {total : Nat} {centroids : List Centroid}
    {labels counts before : List Nat} (h : progress.counts = some before) :
    (progress.record total centroids labels counts).changeTrace =
      progress.changeTrace ++ [changeFraction before counts total] := by
  simp only [record, h]

/-- An iteration measures at most once and keeps the measurements before. -/
theorem changeTrace_prefix_of_answers
    (h : (progress.advanceWith store overlaps working).Answers session next after) :
    progress.changeTrace <+: next.changeTrace := by
  obtain ⟨labels, counts, centroids, -, -, -, rfl⟩ := answers_advanceWith_iff.mp h
  cases hcounts : progress.counts with
  | none =>
      exact (changeTrace_record_of_uncounted hcounts).symm ▸ List.prefix_rfl
  | some before =>
      rw [changeTrace_record_of_counted hcounts]
      exact List.prefix_append _ _

/-! ## The invariant -/

/-- A change fraction of a working set with the given number of points: a count
as a fraction of it, at most one. -/
def IsChangeFraction (total : Nat) (fraction : Float) : Prop :=
  ∃ moved : Nat, fraction = smaller (Float.ofNat moved / Float.ofNat total) 1.0

/-- What an iteration leaves behind: every point has one of the labels, the
labels are counted, and the centroids without points are listed. -/
structure Assigned (working : List Point) (k : Nat) (progress : Progress) : Prop where
  length_labels : progress.labels.length = working.length
  label_mem : ∀ label ∈ progress.labels, label ∈ clusterLabels k
  counts_eq :
    progress.counts = some ((clusterLabels k).map fun label => progress.labels.count label)
  dead_eq : progress.dead = (clusterLabels k).filter fun id => !progress.labels.contains id

/-- What holds between two iterations of a refinement with `k` centroids. -/
structure Sound (working : List Point) (k : Nat) (progress : Progress) : Prop where
  ids_eq : progress.centroids.map Centroid.id = clusterLabels k
  length_changeTrace : progress.changeTrace.length = progress.iterations - 1
  changeTrace_mem : ∀ fraction ∈ progress.changeTrace, IsChangeFraction working.length fraction
  uncounted : progress.iterations = 0 → progress.counts = none
  assigned : 0 < progress.iterations → progress.Assigned working k

theorem Sound.start {working : List Point} {seeds : List Centroid} {k : Nat}
    (hseeds : seeds.map Centroid.id = clusterLabels k) :
    (Progress.start seeds).Sound working k where
  ids_eq := hseeds
  length_changeTrace := rfl
  changeTrace_mem := by simp [Progress.start]
  uncounted _ := rfl
  assigned h := absurd h (Nat.lt_irrefl 0)

variable {k : Nat}

theorem Sound.length_centroids (hsound : progress.Sound working k) :
    progress.centroids.length = k := by
  simpa using congrArg List.length hsound.ids_eq

/-- The measurements of an earlier state are the first ones of a later one. -/
theorem Sound.changeTrace_eq_take (hsound : progress.Sound working k)
    (h : progress.changeTrace <+: next.changeTrace) :
    progress.changeTrace = next.changeTrace.take (progress.iterations - 1) := by
  rw [← hsound.length_changeTrace]
  exact List.prefix_iff_eq_take.mp h

theorem Sound.label_mem_of_labels? (hsound : progress.Sound working k) (hk : 0 < k)
    {labels : List Nat} (h : store.labels? working progress.centroids = some labels) :
    ∀ label ∈ labels, label ∈ clusterLabels k := by
  have hne : progress.centroids ≠ [] := by
    intro hnil
    simp [← hsound.length_centroids, hnil] at hk
  rw [← hsound.ids_eq]
  exact PointStore.label_mem_of_labels? hne h

/-- Recentering keeps the identifiers. -/
theorem ids_eq_of_recenter {centroids moved : List Centroid} {labels : List Nat}
    (h : List.Forall₂ (fun centroid c => ∃ before behind,
      (store.recenter working labels centroid).Answers before c behind) centroids moved) :
    moved.map Centroid.id = centroids.map Centroid.id := by
  induction h with
  | nil => rfl
  | cons hstep _ ih =>
      obtain ⟨_, _, hstep⟩ := hstep
      rcases PointStore.answers_recenter_iff.mp hstep with ⟨-, rfl, -⟩ | ⟨-, _, -, rfl⟩ <;>
        simp [ih]

theorem isChangeFraction_changeFraction (before after : List Nat) {total : Nat} (h : total ≠ 0) :
    IsChangeFraction total (changeFraction before after total) :=
  ⟨countDifference before after, if_neg h⟩

/-- An iteration keeps the invariant. -/
theorem Sound.advance (hsound : progress.Sound working k) (hk : 0 < k) (hworking : working ≠ [])
    (h : (progress.advanceWith store overlaps working).Answers session next after) :
    next.Sound working k := by
  obtain ⟨labels, counts, centroids, hlabels, hcounts, hmeans, rfl⟩ := answers_advanceWith_iff.mp h
  have hlabel := hsound.label_mem_of_labels? hk hlabels
  rw [hsound.length_centroids, labelCounts?_eq_some hlabel, Option.some.injEq] at hcounts
  have htotal : working.length ≠ 0 := fun hzero => hworking (List.length_eq_zero_iff.mp hzero)
  have htrace : ∀ {trace : List Float},
      (progress.record working.length centroids labels counts).changeTrace = trace →
      trace.length = progress.iterations ∧ ∀ f ∈ trace, IsChangeFraction working.length f := by
    rintro _ rfl
    -- The first iteration has nothing to compare its counts with.
    rcases Nat.eq_zero_or_pos progress.iterations with hzero | hpos
    · rw [changeTrace_record_of_uncounted (hsound.uncounted hzero)]
      exact ⟨by simp [hsound.length_changeTrace, hzero], hsound.changeTrace_mem⟩
    · rw [changeTrace_record_of_counted (hsound.assigned hpos).counts_eq]
      refine ⟨?_, List.forall_mem_append.mpr ⟨hsound.changeTrace_mem, ?_⟩⟩
      · rw [List.length_append, hsound.length_changeTrace, List.length_singleton]
        omega
      · exact List.forall_mem_singleton.mpr (isChangeFraction_changeFraction _ _ htotal)
  exact {
    ids_eq := (ids_eq_of_recenter (forall₂_of_answers_mapOverlapping hmeans)).trans hsound.ids_eq
    length_changeTrace := (htrace rfl).1
    changeTrace_mem := (htrace rfl).2
    uncounted := fun hzero => absurd hzero (Nat.succ_ne_zero _)
    assigned := fun _ => {
      length_labels := PointStore.length_of_labels? hlabels
      label_mem := hlabel
      counts_eq := congrArg some hcounts.symm
      dead_eq := congrArg (List.filter _) hsound.ids_eq } }

theorem Sound.assigned_of_answers (hsound : next.Sound working k)
    (h : (progress.advanceWith store overlaps working).Answers session next after) :
    next.Assigned working k := by
  refine hsound.assigned ?_
  rw [iterations_of_answers h]
  exact Nat.succ_pos _

/-! ## How an iteration fails -/

/-- In the iteration that starts in this state, the store does not answer with a
mean for one of the clusters, after it has answered for the clusters before. -/
def MeanFails (store : PointStore σ ρ) (working : List Point) (progress : Progress)
    (session : Session σ ρ) (error : Error) : Prop :=
  ∃ labels done centroid rest moved between,
    (store.assign working progress.centroids).Answers (progress.announced session) labels
        (progress.announced session) ∧
      progress.centroids = done ++ centroid :: rest ∧
      (done.mapM (store.recenter working labels)).Answers (progress.announced session) moved
        between ∧
      membersOf working labels centroid.id ≠ [] ∧
      (store.mean (membersOf working labels centroid.id) between.store).1.outcome = .error error

theorem fails_mapM_recenter_iff {centroids : List Centroid} {labels : List Nat}
    {cause : Failure} :
    (∃ after, (centroids.mapM (store.recenter working labels)).Fails session cause after) ↔
      ∃ error done centroid rest moved between, cause = .error error ∧
        centroids = done ++ centroid :: rest ∧
        (done.mapM (store.recenter working labels)).Answers session moved between ∧
        membersOf working labels centroid.id ≠ [] ∧
        (store.mean (membersOf working labels centroid.id) between.store).1.outcome =
          .error error := by
  simp only [fails_mapM_iff, PointStore.fails_recenter_iff, PointStore.askMean, fails_call_iff]
  constructor
  · rintro ⟨_, done, centroid, rest, moved, between, hsplit, hdone, hmembers, error, hmean, rfl, -⟩
    exact ⟨error, done, centroid, rest, moved, between, rfl, hsplit, hdone, hmembers, hmean⟩
  · rintro ⟨error, done, centroid, rest, moved, between, rfl, hsplit, hdone, hmembers, hmean⟩
    exact ⟨_, done, centroid, rest, moved, between, hsplit, hdone, hmembers, error, hmean, rfl, rfl⟩

/-- A mean that is not answered ends the iteration with the store's error, which
shows the state before the iteration. -/
theorem Sound.fails_of_meanFails (hsound : progress.Sound working k) {error : Error}
    (h : progress.MeanFails store working session error) :
    ∃ after, (progress.advance store working).Fails session
      (.error (error.withCheckpoint progress.checkpoint)) after := by
  obtain ⟨labels, done, centroid, rest, moved, between, hassign, hsplit, hdone, hmembers,
    hmean⟩ := h
  rw [PointStore.assign_eq, answers_expect_iff] at hassign
  -- There is a cluster whose mean fails, hence labels that can be counted.
  have hk : 0 < k := by
    rw [← hsound.length_centroids, hsplit, List.length_append, List.length_cons]
    omega
  have hcounts := labelCounts?_eq_some (hsound.label_mem_of_labels? hk hassign.1)
  rw [← hsound.length_centroids] at hcounts
  obtain ⟨after, hfails⟩ := fails_mapM_recenter_iff.mpr
    ⟨error, done, centroid, rest, moved, between, rfl, hsplit, hdone, hmembers, hmean⟩
  exact ⟨after, fails_advance_iff.mpr
    (.inr ⟨labels, hassign.1, .inr ⟨_, .error error, hcounts, hfails, rfl⟩⟩)⟩

/-- In a sound state an iteration succeeds, or a mean is not answered. -/
theorem Sound.meanFails_of_fails (hsound : progress.Sound working k) (hk : 0 < k)
    (hmetric : store.HasTotalMetric)
    (h : (progress.advance store working).Fails session failure after) :
    ∃ error, progress.MeanFails store working session error ∧
      failure = .error (error.withCheckpoint progress.checkpoint) := by
  rcases fails_advance_iff.mp h with ⟨hlabels, -, -⟩ | ⟨labels, hlabels,
    ⟨hcounts, -, -⟩ | ⟨counts, cause, -, hmeans, rfl⟩⟩
  · obtain ⟨labels, hsome⟩ := hmetric.exists_labels? working progress.centroids
    simp [hlabels] at hsome
  · rw [hsound.length_centroids, labelCounts?_eq_some (hsound.label_mem_of_labels? hk hlabels)]
      at hcounts
    simp at hcounts
  · obtain ⟨error, done, centroid, rest, moved, between, rfl, hmean⟩ :=
      fails_mapM_recenter_iff.mp ⟨after, hmeans⟩
    refine ⟨error, ⟨labels, done, centroid, rest, moved, between, ?_, hmean⟩, rfl⟩
    rw [PointStore.assign_eq, answers_expect_iff]
    exact ⟨hlabels, rfl⟩

end SampledKmeans.Progress
