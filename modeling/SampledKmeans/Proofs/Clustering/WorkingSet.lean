import SampledKmeans.Proofs.Clustering.Randomness

/-!
# The size of the working set

The number of points that refinement works on is a product, capped to what a count
can hold, then cut to the largest sample, raised to the number of clusters and
compared with the population.  No population is as large as the largest count, so
that the cap makes no difference (`min_capped`): the size is the same as with numbers
of any size.

A sample consists of points at different positions of the population.  Where there
is none, the working set is the population in its own order.
-/

namespace SampledKmeans

open Procedure Sampler

theorem Population.size_le_maxCount (population : Population) : population.size ≤ maxCount :=
  population.fits.trans (by decide)

namespace Clustering

variable {σ ρ : Type} {clustering : Clustering σ} {store : PointStore σ ρ}
  {working : List Point} {sampled : Bool}

/-! ## The size of a sample -/

/-- The number of points to sample for a number of draws that covers the clusters, without
regard to the size of a count. -/
def wanted (clustering : Clustering σ) (draws : Nat) : Nat :=
  max clustering.k (min (draws * clustering.settings.perCluster) clustering.settings.maxSample)

/-- Below the largest count a capped count is as good as the count itself. -/
theorem min_capped {population : Nat} (h : population ≤ maxCount) (k n limit : Nat) :
    min population (max (min (capCount n) limit) k) = min population (max k (min n limit)) := by
  unfold capCount
  omega

theorem exists_draws_of_sampleSize {size population : Nat}
    (hsize : clustering.sampleSize = .ok size) (hpopulation : population ≤ maxCount) :
    ∃ draws, coverage clustering.k clustering.settings.confidence = .ok draws ∧
      min population size = min population (clustering.wanted draws) := by
  unfold sampleSize workingSampleSize at hsize
  cases hcoverage : coverage clustering.k clustering.settings.confidence with
  | error error =>
      rw [hcoverage] at hsize
      cases hsize
  | ok draws =>
      rw [hcoverage] at hsize
      obtain rfl := Except.ok.inj hsize
      exact ⟨draws, rfl, min_capped hpopulation _ _ _⟩

variable {population : Population} {session after : Session σ ρ}

/-- The working set is a sample when sampling is on and the sample is smaller than the
population. -/
theorem sampled_of_workingSet {n : Nat}
    (h : (clustering.workingSet store n).Answers session (working, sampled) after) :
    ∃ size, clustering.sampleSize = .ok size ∧
      sampled = (clustering.settings.sampling && decide (size < n)) := by
  obtain ⟨size, _, hcheck, hloads⟩ := answers_bind_iff.mp h
  refine ⟨size, (answers_check_iff.mp hcheck).1, ?_⟩
  split_ifs at hloads with hsampled
  all_goals
    obtain ⟨_, _, -, hrest⟩ := answers_bind_iff.mp hloads
    obtain ⟨_, _, -, hpure⟩ := answers_bind_iff.mp hrest
    rw [(Prod.mk.inj (answers_pure_iff.mp hpure).1).2]
  · exact hsampled.symm
  · exact (eq_false_of_ne_true hsampled).symm

/-- A sample to refine: so many different points of the population as were asked for, or
all of them. -/
theorem sample_of_workingSet [Sampler ρ] [LawfulSampler ρ]
    (hsamples : store.SamplesFrom population) {n : Nat}
    (h : (clustering.workingSet store n).Answers session (working, true) after) :
    ∃ size, clustering.sampleSize = .ok size ∧ working.length = min size population.size ∧
      (working.map Point.id).Nodup ∧ ∀ p ∈ working, p ∈ population.points.toList := by
  obtain ⟨size, hsize, rfl⟩ := working_eq_of_sampled hsamples h
  refine ⟨size, hsize, ?_, ?_, fun p hp => Population.mem_of_mem_pointsAt hp⟩
  · rw [Population.length_pointsAt fun i hi => drawn_lt hi, length_drawn]
  · exact Population.nodup_pointsAt nodup_drawn

/-! ## The working set of a clustering -/

/-- What refinement works on when a clustering of a population answers. -/
structure WorksOn (clustering : Clustering σ) (population : Population) (draws : Nat)
    (working : List Point) (clustered : Clustered) : Prop where
  workingSize_eq : clustered.workingSize = working.length
  length_eq : working.length =
    if clustering.settings.sampling then min population.size (clustering.wanted draws)
    else population.size
  expanded_iff : clustered.expanded = true ↔
    clustering.settings.sampling = true ∧ working.length < population.size
  /-- A sample consists of points of the population, none of them twice. -/
  sampled : clustered.expanded = true →
    (working.map Point.id).Nodup ∧ ∀ p ∈ working, p ∈ population.points.toList
  full : clustered.expanded = false → working = population.points.toList

variable [RandomSource ρ]

theorem Course.worksOn_sample [Sampler ρ] [LawfulSampler ρ]
    (course : clustering.Course store session)
    (hsamples : store.SamplesFrom population) (hpopulation : course.population = population.size)
    (hcase : course.sampled = true) :
    ∃ draws, coverage clustering.k clustering.settings.confidence = .ok draws ∧
      clustering.WorksOn population draws course.working course.result := by
  have hloads := course.loads
  rw [hcase] at hloads
  obtain ⟨size, hsize, hsampled⟩ := sampled_of_workingSet hloads
  obtain ⟨hsampling, hlt⟩ := Bool.and_eq_true_iff.mp hsampled.symm
  rw [decide_eq_true_iff, hpopulation] at hlt
  obtain ⟨size', hsize', hlength, hsample⟩ := sample_of_workingSet hsamples hloads
  obtain rfl := Except.ok.inj (hsize.symm.trans hsize')
  obtain ⟨draws, hdraws, hmin⟩ := exists_draws_of_sampleSize hsize population.size_le_maxCount
  rw [Nat.min_comm] at hlength
  exact ⟨draws, hdraws, {
    workingSize_eq := rfl
    length_eq := by rw [hlength, hmin, if_pos hsampling]
    expanded_iff := iff_of_true hcase ⟨hsampling, by omega⟩
    sampled := fun _ => hsample
    full := fun hfull => absurd (hfull.symm.trans hcase) Bool.false_ne_true }⟩

theorem Course.worksOn_all (course : clustering.Course store session)
    (hholds : store.Holds population.points.toList)
    (hpopulation : course.population = population.size) (hcase : course.sampled = false) :
    ∃ draws, coverage clustering.k clustering.settings.confidence = .ok draws ∧
      clustering.WorksOn population draws course.working course.result := by
  have hloads := course.loads
  rw [hcase] at hloads
  obtain ⟨size, hsize, hsampled⟩ := sampled_of_workingSet hloads
  rw [hpopulation] at hsampled
  obtain ⟨draws, hdraws, hmin⟩ := exists_draws_of_sampleSize hsize population.size_le_maxCount
  have hworking := eq_of_workingSet hholds hloads
  have hlength : course.working.length = population.size := congrArg List.length hworking
  -- With sampling on, all points are the working set because a sample would be as large.
  have hsize_ge : clustering.settings.sampling = true → population.size ≤ size := by
    intro hsampling
    rw [hsampling, Bool.true_and, eq_comm, decide_eq_false_iff_not] at hsampled
    exact Nat.le_of_not_lt hsampled
  exact ⟨draws, hdraws, {
    workingSize_eq := rfl
    length_eq := by
      split_ifs with hsampling
      · rw [← hmin, Nat.min_eq_left (hsize_ge hsampling), hlength]
      · exact hlength
    expanded_iff := by
      refine iff_of_false (fun hexpanded => ?_) fun hless => hless.2.ne hlength
      exact absurd (hcase.symm.trans hexpanded) Bool.false_ne_true
    sampled := fun hexpanded => absurd (hcase.symm.trans hexpanded) Bool.false_ne_true
    full := fun _ => hworking }⟩

/-- A clustering of a population has worked on a sample of the wanted size when this is
smaller than the population, and on all points otherwise. -/
theorem fit_worksOn [Sampler ρ] [LawfulSampler ρ] (clustering : Clustering σ)
    (population : Population) {clustered : Clustered}
    (h : (clustering.fit population.store).outcome session = .ok clustered) :
    ∃ (course : clustering.Course (population.store.timed clustering.settings.timeout) session)
      (draws : Nat), clustered = course.result ∧
        coverage clustering.k clustering.settings.confidence = .ok draws ∧
        clustering.WorksOn population draws course.working clustered := by
  obtain ⟨after, hanswers⟩ := outcome_eq_ok_iff.mp h
  obtain ⟨course, rfl⟩ := exists_course hanswers
  have hholds : (population.store : PointStore σ ρ).Holds population.points.toList :=
    PointStore.holds_population population
  have hsamples : (population.store : PointStore σ ρ).SamplesFrom population := .of_population _
  have hpopulation : course.population = population.size :=
    (bounds_of_validate (hholds.timed _) course.validates).1
  cases hcase : course.sampled with
  | true =>
      obtain ⟨draws, hdraws, hworks⟩ :=
        course.worksOn_sample (hsamples.timed _) hpopulation hcase
      exact ⟨course, draws, rfl, hdraws, hworks⟩
  | false =>
      obtain ⟨draws, hdraws, hworks⟩ := course.worksOn_all (hholds.timed _) hpopulation hcase
      exact ⟨course, draws, rfl, hdraws, hworks⟩

/-- A sample of one of three points. -/
theorem fit_worksOn_onLine :
    let population : Population := ⟨(pointsOnLine [1.0, 2.0, 6.0]).toArray, by decide, by decide⟩
    let clustering : Clustering Unit := { k := 1, settings := { maxSample := 1 }, withFit := false }
    let session : Session Unit SplitMix := { store := (), random := {} }
    ∃ clustered draws working,
      (clustering.fit population.store).outcome session = .ok clustered ∧
        clustering.WorksOn population draws working clustered ∧
        clustered.expanded = true ∧ clustered.workingSize = 1 ∧ clustered.population = 3 := by
  intro population clustering session
  -- The number of draws does not matter, since the largest sample is one point.
  have hsize : clustering.sampleSize = .ok 1 :=
    sampleSize_of_maxSample_le (by decide +kernel) (by decide) (by decide)
  have hok : (clustering.fit population.store).outcome session = .ok {
      centroids := centroidsOnLine [2.0],
      assignments := (pointsOnLine [1.0, 2.0, 6.0]).map fun point => point.assignTo 1,
      fit := none, iterations := 2, reason := .belowLimit 0.001, changeTrace := [0.0],
      requested := 1, dead := [], population := 3, workingSize := 1, expanded := true } := by
    unfold fit fitUntimed fitUntimedWith workingSet
    rw [hsize]
    decide +kernel
  obtain ⟨course, draws, -, -, hworks⟩ := fit_worksOn clustering population hok
  exact ⟨_, draws, course.working, hok, hworks, rfl, rfl, rfl⟩

end Clustering

end SampledKmeans
