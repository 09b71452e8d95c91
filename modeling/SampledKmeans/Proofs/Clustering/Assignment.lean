import SampledKmeans.Proofs.Clustering.Faults

/-!
# Which centroid a point is assigned to

There are two ways to the assignments, and they look at different centroids.  An
expansion assigns every point to the nearest of the final centroids.  Without it
the labels of the last iteration stand, which were found before that iteration
moved the centroids: every point is assigned to the nearest of the centroids with
which the last iteration began, and after the move another may be nearer.
-/

namespace SampledKmeans

open Procedure

variable {σ ρ : Type} {store : PointStore σ ρ} {points working : List Point}
  {session : Session σ ρ}

/-- The labels of a refinement belong to the state in which its last iteration
began. -/
theorem Limits.exists_before_last_iteration {limits : Limits} {stop : StopSignal σ}
    {seeds : List Centroid} {result : Refinement}
    (h : (limits.refine store stop working seeds).outcome session = .ok result) :
    ∃ before between, limits.Reaches store stop working seeds session before between ∧
      before.iterations + 1 = result.iterations ∧
      store.labels? working before.centroids = some result.labels := by
  have hadmits := admits_of_outcome_refine h
  obtain ⟨last, after, reason, hlast, hending, rfl⟩ := (outcome_refine_eq_ok_iff hadmits).mp h
  have hpos := iterations_pos_of_ending? hlast hadmits.maxIterations_pos hending
  cases hlast with
  | start => exact absurd hpos (Nat.lt_irrefl 0)
  | @next before _ between _ hreaches _ hanswers =>
      obtain ⟨labels, counts, centroids, hlabels, -, -, heq⟩ :=
        Progress.answers_advance_iff.mp hanswers
      refine ⟨before, between, hreaches, (Progress.iterations_of_answers hanswers).symm, ?_⟩
      rw [show (last.finish reason).labels = labels from congrArg Progress.labels heq]
      exact hlabels

theorem forall₂_nearest_zip {centroids : List Centroid} {labels : List Nat}
    (h : store.labels? points centroids = some labels) :
    List.Forall₂ (Expansion.Nearest store centroids) points
      ((points.zip labels).map fun entry => entry.1.assignTo entry.2) := by
  have hforall := PointStore.labels?_eq_some_iff.mp h
  clear h
  induction hforall with
  | nil => exact .nil
  | cons hnearest _ ih =>
      obtain ⟨d, hd⟩ := hnearest
      exact .cons ⟨_, d, hd, rfl⟩ ih

namespace Clustering

variable [RandomSource ρ] {clustering : Clustering σ}

theorem Course.answers_prepare (course : clustering.Course store session) :
    (clustering.prepare store).Answers session
      ⟨course.population, course.seeding, course.working, course.sampled⟩ course.loaded :=
  answers_bind_iff.mpr ⟨_, _, course.validates, answers_bind_iff.mpr ⟨_, _, course.seeds,
    answers_bind_iff.mpr ⟨_, _, course.accepts, answers_bind_iff.mpr ⟨_, _, course.loads,
      answers_pure_iff.mpr ⟨rfl, rfl⟩⟩⟩⟩⟩

/-- For every population, all settings, every random source and every sampler, and
whenever the caller asks to stop: after an expansion every point is assigned to the nearest of
the final centroids, and otherwise to the nearest of those with which the last
iteration began, which are the seeds if it was the only one. -/
theorem fit_assigns_nearest [Sampler ρ] (clustering : Clustering σ) (population : Population)
    {clustered : Clustered}
    (h : (clustering.fit population.store).outcome session = .ok clustered) :
    (clustered.expanded = true →
      List.Forall₂ (Expansion.Nearest (population.store : PointStore σ ρ) clustered.centroids)
        population.points.toList clustered.assignments) ∧
    (clustered.expanded = false → ∃ prepared prepares before between,
      (clustering.prepare ((population.store : PointStore σ ρ).timed
        clustering.settings.timeout)).Answers session prepared prepares ∧
      clustering.limits.Reaches ((population.store : PointStore σ ρ).timed
        clustering.settings.timeout) clustering.stop prepared.working prepared.seeding.centroids
        prepares before between ∧
      before.iterations + 1 = clustered.iterations ∧
      (clustered.iterations = 1 → before.centroids = prepared.seeding.centroids) ∧
      List.Forall₂ (Expansion.Nearest (population.store : PointStore σ ρ) before.centroids)
        population.points.toList clustered.assignments) := by
  obtain ⟨after, hanswers⟩ := outcome_eq_ok_iff.mp h
  obtain ⟨course, rfl⟩ := exists_course hanswers
  have hholds := (PointStore.holds_population (σ := σ) (ρ := ρ) population).timed
    clustering.settings.timeout
  have hassigns := course.assigns
  refine ⟨fun hexpanded => ?_, fun hexpanded => ?_⟩
  · rw [show course.sampled = true from hexpanded] at hassigns
    exact (nearest_of_expandSample hholds hassigns).2.1
  · have hloads := course.loads
    rw [show course.sampled = false from hexpanded] at hassigns hloads
    have hworking := eq_of_workingSet hholds hloads
    obtain ⟨before, between, hreaches, hiterations, hlabels⟩ :=
      Limits.exists_before_last_iteration course.refines.outcome_eq
    refine ⟨_, _, before, between, course.answers_prepare, hreaches, hiterations,
      fun hone => ?_, ?_⟩
    · have hzero : before.iterations = 0 := by
        change course.refinement.iterations = 1 at hone
        omega
      rw [hreaches.eq_start_of_iterations_eq_zero hzero]
      rfl
    · change List.Forall₂ _ _ course.assignments
      rw [(eq_of_labelAll hassigns).1, ← hworking]
      exact forall₂_nearest_zip hlabels

/-- Three points on a line and one cluster, whose centroid moves in the first
iteration. -/
theorem fit_assigns_nearest_onLine :
    let population : Population := ⟨(pointsOnLine [1.0, 2.0, 6.0]).toArray, by decide, by decide⟩
    let clustering : Clustering Unit := { k := 1, settings := { sampling := false } }
    let session : Session Unit SplitMix := { store := (), random := {} }
    ∃ clustered, (clustering.fit population.store).outcome session = .ok clustered ∧
      clustered.expanded = false ∧ ∃ before : Progress,
        before.iterations + 1 = clustered.iterations ∧
        List.Forall₂ (Expansion.Nearest (population.store : PointStore Unit SplitMix)
          before.centroids) (pointsOnLine [1.0, 2.0, 6.0]) clustered.assignments := by
  intro population clustering session
  have hok : (clustering.fit population.store).outcome session = .ok {
      centroids := centroidsOnLine [3.0],
      assignments := (pointsOnLine [1.0, 2.0, 6.0]).map fun point => point.assignTo 1,
      fit := some 2.0, iterations := 2, reason := .belowLimit 0.001, changeTrace := [0.0],
      requested := 1, dead := [], population := 3, workingSize := 3, expanded := false } := by
    decide +kernel
  obtain ⟨_, _, before, _, -, -, hiterations, -, hnearest⟩ :=
    (fit_assigns_nearest clustering population hok).2 rfl
  exact ⟨_, hok, rfl, before, hiterations, hnearest⟩

end Clustering

end SampledKmeans
