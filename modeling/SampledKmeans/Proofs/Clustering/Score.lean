import SampledKmeans.Proofs.Clustering.Faults

/-!
# A clustering with a score and without

Whether the goodness of fit is asked for makes no difference to anything else.
The stages up to refinement do not know of it.  After them there are two ways to
the assignments.

* **After a sample** the score is a sum that the assignment of the population
  keeps in either case; asking for it is asking what to make of the sum.
* **Without a sample** it is measured for itself, by a procedure that may refuse.
  There is nothing to refuse: the working set is not empty, and the labels of a
  sound refinement name its centroids.  What remains is to measure the distances
  once more, to the final centroids, and to report the score.

A distance from a point to a final centroid need not have been measured before, so
that an undefined one shows only where the score is asked for.
-/

namespace SampledKmeans

open Procedure

variable {σ ρ : Type} {store : PointStore σ ρ} {centroids : List Centroid}

/-- The session after the goodness of fit is reported, if there is one. -/
def Session.noting (session : Session σ ρ) : Option Float → Session σ ρ
  | some fit => { session with events := session.events.push (.goodnessOfFit fit) }
  | none => session

/-! ## After a sample -/

theorem Expansion.Draft.isSome_fit (draft : Draft) :
    (draft.finish true).fit.isSome = !(draft.finish true).assignments.isEmpty := by
  change draft.sum.mean?.isSome = !draft.assignments.toList.isEmpty
  rw [FitSum.isSome_mean?]
  change (draft.assignments.size != 0) = _
  cases h : draft.assignments.toList <;> simp [← Array.length_toList, h]

namespace Clustering

/-- The clustering with a score or without. -/
def scoring (clustering : Clustering σ) (withFit : Bool) : Clustering σ :=
  { clustering with withFit }

variable {clustering : Clustering σ} {working : List Point} {refinement : Refinement}
  {session : Session σ ρ}

/-- The assignment of a population is one scan, whatever is made of its distances. -/
theorem expandSample_scoring :
    (∃ failure after, ∀ withFit,
      ((clustering.scoring withFit).expandSample store refinement).Fails session failure after) ∨
    ∃ (draft : Expansion.Draft) (after : Session σ ρ), ∀ withFit,
      ((clustering.scoring withFit).expandSample store refinement).Answers session
        ((draft.finish withFit).assignments, (draft.finish withFit).fit) after := by
  let reported : Session σ ρ := { session with events := session.events.push .expanding }
  have hreports : (report .expanding).Answers session () reported := answers_report_iff.mpr rfl
  rcases (store.assignScan refinement.centroids).answers_or_fails reported with
    ⟨draft, after, hassigns⟩ | ⟨cause, after, hfails⟩
  · right
    refine ⟨draft, after, ?_⟩
    intro withFit
    have hexpands := PointStore.answers_expand hassigns withFit
    apply hreports.answers_bind_iff.mpr
    apply (answers_checkpointed_iff.mpr hexpands).answers_bind_iff.mpr
    exact answers_pure_iff.mpr ⟨rfl, rfl⟩
  · left
    refine ⟨cause.mapError (Error.withCheckpoint refinement.checkpoint), after, ?_⟩
    intro withFit
    have hexpands := PointStore.fails_expand hfails withFit
    apply hreports.fails_bind_iff.mpr
    apply Fails.bind
    exact fails_checkpointed_iff.mpr ⟨cause, hexpands, rfl⟩

/-! ## Without a sample -/

/-- The labels of a working set can be scored, unless a distance is undefined. -/
theorem labelAll_scoring (hne : working ≠ [])
    (hlength : refinement.labels.length = working.length)
    (hlabels : ∀ label ∈ refinement.labels, label ∈ refinement.centroids.map Centroid.id) :
    ∃ assignments, assignments ≠ [] ∧
      ((clustering.scoring false).labelAll store working refinement).Answers session
        (assignments, none) session ∧
      ((∃ fit, ((clustering.scoring true).labelAll store working refinement).Answers session
          (assignments, some fit) session) ∨
        ((clustering.scoring true).labelAll store working refinement).Fails session .outOfRange
          session ∧
        ∃ a ∈ assignments, ∃ c ∈ refinement.centroids, c.id = a.centroidId ∧
          store.metric a.position c.position = none) := by
  have hzip : working.zip refinement.labels ≠ [] := zip_ne_nil hne hlength
  let assigned := (working.zip refinement.labels).map fun entry => (entry.1.position, entry.2)
  have hassigned : assigned ≠ [] := by simpa [assigned] using hzip
  have hids : ∀ entry ∈ assigned, entry.2 ∈ refinement.centroids.map Centroid.id := by
    intro _ hentry
    obtain ⟨⟨point, label⟩, hmem, rfl⟩ := List.mem_map.mp hentry
    exact hlabels label (List.of_mem_zip hmem).2
  have hmeasures : store.goodnessOfFit assigned refinement.centroids =
      expect (store.fit? assigned refinement.centroids) :=
    PointStore.goodnessOfFit_eq hassigned hids
  refine ⟨(working.zip refinement.labels).map fun entry => entry.1.assignTo entry.2,
    by simpa using hzip, answers_pure_iff.mpr ⟨rfl, rfl⟩, ?_⟩
  cases hfit : store.fit? assigned refinement.centroids with
  | some fit =>
      left
      refine ⟨fit, answers_bind_iff.mpr ⟨fit, session, ?_, answers_pure_iff.mpr ⟨rfl, rfl⟩⟩⟩
      change (store.goodnessOfFit assigned refinement.centroids).Answers session fit session
      rw [hmeasures]
      exact answers_expect_iff.mpr ⟨hfit, rfl⟩
  | none =>
      right
      constructor
      · refine Fails.bind ?_
        change (store.goodnessOfFit assigned refinement.centroids).Fails session _ session
        rw [hmeasures]
        exact fails_expect_iff.mpr ⟨hfit, rfl, rfl⟩
      · obtain ⟨_, hentry, c, hc, hid, hundefined⟩ :=
          PointStore.exists_undefined_of_fit? hassigned hids hfit
        obtain ⟨⟨point, label⟩, hmem, rfl⟩ := List.mem_map.mp hentry
        exact ⟨point.assignTo label, List.mem_map_of_mem hmem, c, hc, hid, hundefined⟩

/-! ## Either way -/

/-- With a score and without, the assignment of all points fails alike or answers
alike, unless an undefined distance shows. -/
theorem assignAll_scoring (clustering : Clustering σ) (store : PointStore σ ρ)
    (session : Session σ ρ) (loaded : List Point × Bool) {last : Progress} (reason : StopReason)
    {k : Nat} (hsound : last.Sound loaded.1 k) (hiterated : 0 < last.iterations)
    (hne : loaded.1 ≠ []) :
    (∃ failure after, ∀ withFit, ((clustering.scoring withFit).assignAll store loaded
      (last.finish reason)).Fails session failure after) ∨
    ∃ assignments after,
      ((clustering.scoring false).assignAll store loaded (last.finish reason)).Answers session
        (assignments, none) after ∧
      ((∃ fit : Option Float, fit.isSome = !assignments.isEmpty ∧
          ((clustering.scoring true).assignAll store loaded (last.finish reason)).Answers session
            (assignments, fit) after) ∨
        loaded.2 = false ∧
        ((clustering.scoring true).assignAll store loaded (last.finish reason)).Fails session
          .outOfRange after ∧
        ∃ a ∈ assignments, ∃ c ∈ last.centroids, c.id = a.centroidId ∧
          store.metric a.position c.position = none) := by
  unfold assignAll
  by_cases hsampled : loaded.2 = true
  · simp only [if_pos hsampled]
    refine expandSample_scoring.imp_right ?_
    rintro ⟨draft, after, hanswers⟩
    exact ⟨_, after, hanswers false, .inl ⟨_, draft.isSome_fit, hanswers true⟩⟩
  · simp only [if_neg hsampled]
    have hlength : (last.finish reason).labels.length = loaded.1.length :=
      (hsound.assigned hiterated).length_labels
    have hlabels : ∀ label ∈ (last.finish reason).labels,
        label ∈ (last.finish reason).centroids.map Centroid.id :=
      label_mem_ids_of_sound hsound hiterated
    obtain ⟨assignments, hassignments, hplain, hscored⟩ := labelAll_scoring hne hlength hlabels
    refine .inr ⟨assignments, session, hplain, hscored.imp ?_ fun hfails => ?_⟩
    · rintro ⟨fit, hanswers⟩
      exact ⟨some fit, by simpa using hassignments, hanswers⟩
    · exact ⟨by simpa using hsampled, hfails⟩

/-- What is made of the answers of the stages. -/
def concluded (clustering : Clustering σ) (population : Nat) (loaded : List Point × Bool)
    (refinement : Refinement) (assigned : List Assignment × Option Float) : Clustered where
  centroids := refinement.centroids
  assignments := assigned.1
  fit := assigned.2
  iterations := refinement.iterations
  reason := refinement.reason
  changeTrace := refinement.changeTrace
  requested := clustering.k
  dead := refinement.dead
  population
  workingSize := loaded.1.length
  expanded := loaded.2

theorem answers_conclude (clustering : Clustering σ) (session : Session σ ρ) (population : Nat)
    (loaded : List Point × Bool) (refinement : Refinement) (assignments : List Assignment)
    (fit : Option Float) :
    (clustering.conclude population loaded refinement (assignments, fit)).Answers session
      (clustering.concluded population loaded refinement (assignments, fit))
      (session.noting fit) := by
  cases fit with
  | none => exact answers_pure_iff.mpr ⟨rfl, rfl⟩
  | some fit =>
      refine answers_bind_iff.mpr ⟨(), _, answers_report_iff.mpr rfl, ?_⟩
      exact answers_pure_iff.mpr ⟨rfl, rfl⟩

/-- What is left to do after a refinement. -/
def finish (clustering : Clustering σ) (store : PointStore σ ρ) (prepared : Prepared)
    (refinement : Refinement) : Procedure σ ρ Clustered := do
  let assigned ← clustering.assignAll store (prepared.working, prepared.sampled) refinement
  clustering.conclude prepared.population (prepared.working, prepared.sampled) refinement assigned

/-- The runs with a score and without it differ in nothing else.  They fail alike and
leave the same session behind; or both answer, alike but for the score, and leave
sessions behind that differ in the report of the score at most.  There is no score
without it being asked for, and where it is asked for there is one if there are
assignments. -/
def DiffersOnlyInScore (run : Bool → Procedure σ ρ Clustered) (session : Session σ ρ) : Prop :=
  (∃ failure after, ∀ withFit, (run withFit).Fails session failure after) ∨
  ∃ (clustered : Clustered) (fit : Option Float) (after : Session σ ρ),
    (run false).Answers session { clustered with fit := none } after ∧
    (run true).Answers session { clustered with fit := fit } (after.noting fit) ∧
    fit.isSome = !clustered.assignments.isEmpty

theorem finish_scoring (clustering : Clustering σ) (store : PointStore σ ρ) (session : Session σ ρ)
    (prepared : Prepared) {last : Progress} (reason : StopReason) {k : Nat}
    (hsound : last.Sound prepared.working k) (hiterated : 0 < last.iterations)
    (hne : prepared.working ≠ []) :
    DiffersOnlyInScore
      (fun withFit => (clustering.scoring withFit).finish store prepared (last.finish reason))
      session ∨
    ∃ clustered after, clustered.expanded = false ∧
      ((clustering.scoring false).finish store prepared (last.finish reason)).Answers session
        clustered after ∧
      ((clustering.scoring true).finish store prepared (last.finish reason)).Fails session
        .outOfRange after ∧
      ∃ a ∈ clustered.assignments, ∃ c ∈ clustered.centroids, c.id = a.centroidId ∧
        store.metric a.position c.position = none := by
  let loaded := (prepared.working, prepared.sampled)
  rcases assignAll_scoring clustering store session loaded reason hsound hiterated hne with
    ⟨failure, after, hfails⟩ | ⟨assignments, after, hplain, hscored⟩
  · exact .inl (.inl ⟨failure, after, fun withFit => (hfails withFit).bind⟩)
  have hconcludes := answers_conclude clustering after prepared.population loaded
    (last.finish reason) assignments
  have hanswers := hplain.answers_bind_iff.mpr (hconcludes none)
  let clustered := clustering.concluded prepared.population loaded (last.finish reason)
    (assignments, none)
  rcases hscored with ⟨fit, hsome, hassigns⟩ | ⟨hwhole, hfails, hundefined⟩
  · left
    right
    exact ⟨clustered, fit, after, hanswers, hassigns.answers_bind_iff.mpr (hconcludes fit), hsome⟩
  · right
    exact ⟨clustered, after, hwhole, hanswers, hfails.bind, hundefined⟩

variable [RandomSource ρ]

/-- Only what is left to do after the refinement knows of the score. -/
theorem fitWith_scoring (withFit : Bool) (overlaps : Overlaps) :
    (clustering.scoring withFit).fitWith store overlaps = (do
      let prepared ← clustering.prepare (store.timed clustering.settings.timeout)
      let refinement ← clustering.refinePreparedWith (store.timed clustering.settings.timeout)
        overlaps prepared
      (clustering.scoring withFit).finish (store.timed clustering.settings.timeout) prepared
        refinement) :=
  fitUntimedWith_eq_prepare overlaps

/-- For every store, all settings and every random source, however means overlap, and
whenever the caller asks to stop: a clustering with a score and one without it differ in
nothing else.

The only exception needs a metric that is undefined for some positions.  Without a
sample the score then may ask for a distance that nothing else asks for, that from
a point to the final centroid which it is assigned to. -/
theorem fit_differs_only_in_score (clustering : Clustering σ) (store : PointStore σ ρ)
    (overlaps : Overlaps) (session : Session σ ρ) :
    DiffersOnlyInScore (fun withFit => (clustering.scoring withFit).fitWith store overlaps)
      session ∨
    ∃ clustered after, clustered.expanded = false ∧
      ((clustering.scoring false).fitWith store overlaps).Answers session clustered after ∧
      ((clustering.scoring true).fitWith store overlaps).Fails session .outOfRange after ∧
      ∃ a ∈ clustered.assignments, ∃ c ∈ clustered.centroids, c.id = a.centroidId ∧
        store.metric a.position c.position = none := by
  simp only [DiffersOnlyInScore, fitWith_scoring]
  set limited := store.timed clustering.settings.timeout
  -- Up to refinement the two clusterings are one.
  rcases (clustering.prepare limited).answers_or_fails session with
    ⟨prepared, between, hprepares⟩ | ⟨failure, after, hfails⟩
  swap
  · exact .inl (.inl ⟨failure, after, fun _ => hfails.bind⟩)
  rcases (clustering.refinePreparedWith limited overlaps prepared).answers_or_fails between with
    ⟨refinement, refined, hrefines⟩ | ⟨failure, after, hfails⟩
  swap
  · exact .inl (.inl ⟨failure, after, fun _ => hprepares.fails_bind_iff.mpr hfails.bind⟩)
  simp only [hprepares.answers_bind_iff, hprepares.fails_bind_iff, hrefines.answers_bind_iff,
    hrefines.fails_bind_iff]
  have hadmits := Limits.admits_of_outcome_refine hrefines.outcome_eq
  obtain ⟨last, reason, hsound, hiterated, rfl⟩ :=
    Limits.exists_sound_of_outcome_refine hrefines.outcome_eq
  exact finish_scoring clustering limited refined prepared reason hsound hiterated
    hadmits.working_ne_nil

/-- The exception with the Euclidean distance.  The first vector, which a text can
hold, has no value beside its index 5.  The distance to the seed does not read that
index, since the seed has no later one; the distance to the mean of the three does. -/
theorem not_differsOnlyInScore_unbalanced :
    let population : Population :=
      ⟨#[⟨2, ⟨[0, 5], [1.0]⟩⟩, ⟨1, ⟨[0], [1.0]⟩⟩, ⟨3, ⟨[0, 7], [1.0, 2.0]⟩⟩],
        by decide, by decide⟩
    let store : PointStore Unit SplitMix := population.store
    let clustering : Clustering Unit :=
      { k := 1, settings := { sampling := false, maxIterations := 1 } }
    let session : Session Unit SplitMix := { store := (), random := {} }
    (((clustering.scoring false).fit store).outcome session).isOk = true ∧
      ((clustering.scoring true).fit store).outcome session = .error .outOfRange ∧
      ¬ DiffersOnlyInScore (fun withFit => (clustering.scoring withFit).fit store) session := by
  intro population store clustering session
  have hplain : (((clustering.scoring false).fit store).outcome session).isOk = true := by
    decide +kernel
  have hscored : ((clustering.scoring true).fit store).outcome session = .error .outOfRange := by
    decide +kernel
  refine ⟨hplain, hscored, ?_⟩
  rintro (⟨failure, after, hfails⟩ | ⟨clustered, fit, after, -, hanswers, -⟩)
  · rw [(hfails false).outcome_eq] at hplain
    cases hplain
  · rw [hanswers.outcome_eq] at hscored
    cases hscored

end Clustering

end SampledKmeans
