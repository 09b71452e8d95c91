import SampledKmeans.Clustering
import SampledKmeans.Proofs.Expansion
import SampledKmeans.Proofs.Refinement.Run
import SampledKmeans.Proofs.Seeding

/-!
# What clustering promises

A clustering that answers has gone through all its stages, and what they
answered is its `Course` (`exists_course`).  Each stage leaves behind one fact
about the result: validation the size of the population, seeding the number of
centroids, the working set the points that are labelled, refinement the labels
in range, and the last stage an assignment for every point.

There are two ways to the assignments.  After a refinement on all points they
are the labels of its last iteration, and the dead centroids are those that no
assignment names.  After a refinement on a sample they come from a scan of the
population, so that a dead centroid of the sample may get points after all.
-/

namespace SampledKmeans

open Procedure

/-- The assignment is of the point, to one of `m` centroids. -/
structure Point.IsAssigned (m : Nat) (point : Point) (assignment : Assignment) : Prop where
  pointId_eq : assignment.pointId = point.id
  position_eq : assignment.position = point.position
  centroidId_range : 1 ≤ assignment.centroidId ∧ assignment.centroidId ≤ m

/-- What holds of every clustering of some points for which `m` centroids were
seeded. -/
structure Clustered.WellFormed {σ : Type} (clustering : Clustering σ) (points : List Point)
    (m : Nat) (clustered : Clustered) : Prop where
  population_eq : clustered.population = points.length
  k_range : 0 < clustering.k ∧ clustering.k < clustered.population
  requested_eq : clustered.requested = clustering.k
  ids_eq : clustered.centroids.map Centroid.id = List.range' 1 m
  seeded_range : 1 ≤ m ∧ m ≤ clustering.k
  seeded_eq : clustering.settings.allowShortfall = false → m = clustering.k
  isShort_iff : clustered.isShort = true ↔ m < clustering.k
  /-- One assignment for each point, in the order of the points. -/
  assignments : List.Forall₂ (Point.IsAssigned m) points clustered.assignments
  fit_isSome : clustered.fit.isSome = clustering.withFit
  dead_eq : clustered.expanded = false → clustered.dead = (List.range' 1 m).filter fun id =>
    !(clustered.assignments.map Assignment.centroidId).contains id

variable {σ ρ : Type} {clustering : Clustering σ} {store : PointStore σ ρ}
  {points working : List Point} {refinement : Refinement} {assignments : List Assignment}
  {fit : Option Float} {session after : Session σ ρ} {m : Nat}

namespace Clustering

/-! ## The stages -/

theorem bounds_of_validate (hholds : store.Holds points) {n : Nat}
    (h : (clustering.validate store).Answers session n after) :
    n = points.length ∧ 0 < clustering.k ∧ clustering.k < n := by
  obtain ⟨_, _, -, hrest⟩ := answers_bind_iff.mp h
  split_ifs at hrest with hk
  · exact absurd hrest not_answers_fail
  · obtain ⟨population, _, hcount, hrest⟩ := answers_bind_iff.mp hrest
    split_ifs at hrest with hzero hle
    · exact absurd hrest not_answers_fail
    · exact absurd hrest not_answers_fail
    · obtain rfl := (answers_pure_iff.mp hrest).1
      exact ⟨hholds.eq_of_askCount hcount, Nat.pos_of_ne_zero hk, Nat.lt_of_not_le hle⟩

theorem bounds_of_seed [RandomSource ρ] {seeding : Seeding}
    (h : (clustering.seed store).Answers session seeding after) :
    seeding.requested = clustering.k ∧ 1 ≤ seeding.achieved ∧ seeding.achieved ≤ clustering.k := by
  obtain ⟨_, _, -, hseed⟩ := answers_bind_iff.mp h
  exact SeedPlan.bounds_of_seed hseed

theorem isShort_eq_false_of_accept {seeding : Seeding} {u : Unit}
    (h : (clustering.accept seeding).Answers session u after)
    (hshortfall : clustering.settings.allowShortfall = false) : seeding.isShort = false := by
  by_contra hshort
  rw [Bool.not_eq_false] at hshort
  unfold accept at h
  rw [if_pos hshort, hshortfall] at h
  obtain ⟨_, _, hcomplete, -⟩ := answers_bind_iff.mp h
  have hcheck := (answers_check_iff.mp hcomplete).1
  rw [Seeding.ensureComplete, if_pos hshort] at hcheck
  cases hcheck

/-- Without a sample the working set is the population. -/
theorem eq_of_workingSet (hholds : store.Holds points) {n : Nat}
    (h : (clustering.workingSet store n).Answers session (working, false) after) :
    working = points := by
  obtain ⟨size, _, -, hrest⟩ := answers_bind_iff.mp h
  split_ifs at hrest
  · obtain ⟨_, _, -, hrest⟩ := answers_bind_iff.mp hrest
    obtain ⟨_, _, -, hpure⟩ := answers_bind_iff.mp hrest
    cases (answers_pure_iff.mp hpure).1
  · obtain ⟨_, _, -, hrest⟩ := answers_bind_iff.mp hrest
    obtain ⟨scanned, _, hscan, hpure⟩ := answers_bind_iff.mp hrest
    cases (answers_pure_iff.mp hpure).1
    exact hholds.eq_of_scanAll hscan

theorem eq_of_labelAll
    (h : (clustering.labelAll store working refinement).Answers session (assignments, fit) after) :
    assignments = (working.zip refinement.labels).map (fun entry => entry.1.assignTo entry.2) ∧
      fit.isSome = clustering.withFit := by
  unfold labelAll at h
  cases hfit : clustering.withFit with
  | true =>
      rw [hfit] at h
      obtain ⟨_, _, -, hpure⟩ := answers_bind_iff.mp h
      cases (answers_pure_iff.mp hpure).1
      exact ⟨rfl, rfl⟩
  | false =>
      rw [hfit] at h
      cases (answers_pure_iff.mp h).1
      exact ⟨rfl, rfl⟩

theorem nearest_of_expandSample (hholds : store.Holds points)
    (h : (clustering.expandSample store refinement).Answers session (assignments, fit) after) :
    refinement.centroids ≠ [] ∧
      List.Forall₂ (Expansion.Nearest store refinement.centroids) points assignments ∧
      (points ≠ [] → fit.isSome = clustering.withFit) := by
  obtain ⟨_, _, -, hrest⟩ := answers_bind_iff.mp h
  obtain ⟨expansion, _, hexpand, hpure⟩ := answers_bind_iff.mp hrest
  cases (answers_pure_iff.mp hpure).1
  exact hholds.expansion (answers_checkpointed_iff.mp hexpand)

theorem zip_ne_nil {labels : List Nat} (hne : working ≠ [])
    (hlength : labels.length = working.length) : working.zip labels ≠ [] := by
  rw [← List.length_pos_iff] at hne ⊢
  simpa [hlength] using hne

theorem forall₂_isAssigned_zip {labels : List Nat} (hlength : labels.length = working.length)
    (hlabels : ∀ label ∈ labels, label ∈ clusterLabels m) :
    List.Forall₂ (Point.IsAssigned m) working
      ((working.zip labels).map fun entry => entry.1.assignTo entry.2) := by
  induction working generalizing labels with
  | nil => exact .nil
  | cons point working ih =>
      cases labels with
      | nil => exact absurd hlength (Nat.succ_ne_zero _).symm
      | cons label labels =>
          obtain ⟨hlabel, hlabels⟩ := List.forall_mem_cons.mp hlabels
          exact .cons ⟨rfl, rfl, mem_clusterLabels.mp hlabel⟩ (ih (Nat.succ.inj hlength) hlabels)

/-- Reporting the goodness of fit changes nothing of the answer. -/
theorem exists_of_reported {procedure : Procedure σ ρ (List Assignment × Option Float)}
    {result : List Assignment × Option Float → Clustered} {clustered : Clustered}
    (h : (do
      let assigned ← procedure
      match assigned.2 with
      | some fit => do
        report (.goodnessOfFit fit)
        return result assigned
      | _ => return result assigned : Procedure σ ρ Clustered).Answers session clustered after) :
    ∃ assigned between, procedure.Answers session assigned between ∧
      clustered = result assigned := by
  obtain ⟨⟨assignments, fit⟩, between, hassigned, hrest⟩ := answers_bind_iff.mp h
  refine ⟨_, between, hassigned, ?_⟩
  cases fit with
  | none => exact (answers_pure_iff.mp hrest).1
  | some fit =>
      obtain ⟨_, _, -, hpure⟩ := answers_bind_iff.mp hrest
      exact (answers_pure_iff.mp hpure).1

/-! ## The course of a clustering -/

variable [RandomSource ρ]

/-- What the stages of a clustering answer, one after the other, and the sessions
between them. -/
structure Course (clustering : Clustering σ) (store : PointStore σ ρ) (session : Session σ ρ) where
  population : Nat
  seeding : Seeding
  working : List Point
  sampled : Bool
  refinement : Refinement
  assignments : List Assignment
  fit : Option Float
  validated : Session σ ρ
  seeded : Session σ ρ
  accepted : Session σ ρ
  loaded : Session σ ρ
  refined : Session σ ρ
  assigned : Session σ ρ
  validates : (clustering.validate store).Answers session population validated
  seeds : (clustering.seed store).Answers validated seeding seeded
  accepts : (clustering.accept seeding).Answers seeded () accepted
  loads : (clustering.workingSet store population).Answers accepted (working, sampled) loaded
  refines : (clustering.limits.refine store clustering.stop working seeding.centroids).Answers
    loaded refinement refined
  assigns : (if sampled then clustering.expandSample store refinement
    else clustering.labelAll store working refinement).Answers refined (assignments, fit) assigned

/-- What a clustering with this course answers. -/
def Course.result (course : clustering.Course store session) : Clustered where
  centroids := course.refinement.centroids
  assignments := course.assignments
  fit := course.fit
  iterations := course.refinement.iterations
  reason := course.refinement.reason
  changeTrace := course.refinement.changeTrace
  requested := clustering.k
  dead := course.refinement.dead
  population := course.population
  workingSize := course.working.length
  expanded := course.sampled

theorem exists_course {clustered : Clustered}
    (h : (clustering.fitUntimed store).Answers session clustered after) :
    ∃ course : clustering.Course store session, clustered = course.result := by
  unfold fitUntimed fitUntimedWith at h
  simp only [answers_bind_iff] at h
  obtain ⟨population, validated, hvalidate, seeding, seeded, hseed, _, accepted, haccept,
    ⟨working, sampled⟩, loaded, hload, refinement, refined, hrefine, hrest⟩ := h
  cases sampled with
  | true =>
      obtain ⟨⟨assignments, fit⟩, assigned, hassign, rfl⟩ := exists_of_reported hrest
      exact ⟨⟨population, seeding, working, true, refinement, assignments, fit, validated, seeded,
        accepted, loaded, refined, assigned, hvalidate, hseed, haccept, hload, hrefine, hassign⟩,
        rfl⟩
  | false =>
      obtain ⟨⟨assignments, fit⟩, assigned, hassign, rfl⟩ := exists_of_reported hrest
      exact ⟨⟨population, seeding, working, false, refinement, assignments, fit, validated, seeded,
        accepted, loaded, refined, assigned, hvalidate, hseed, haccept, hload, hrefine, hassign⟩,
        rfl⟩

/-! ## What the result is -/

/-- Without a sample the assignments are the labels of the refinement. -/
theorem Course.labels_of_not_sampled (course : clustering.Course store session)
    (hholds : store.Holds points) (hsampled : course.sampled = false) :
    course.refinement.labels.length = points.length ∧
      (∀ label ∈ course.refinement.labels, label ∈ clusterLabels course.seeding.achieved) ∧
      course.refinement.dead = ((clusterLabels course.seeding.achieved).filter fun id =>
        !course.refinement.labels.contains id) ∧
      course.assignments =
        (points.zip course.refinement.labels).map (fun entry => entry.1.assignTo entry.2) ∧
      course.fit.isSome = clustering.withFit := by
  have hloads := course.loads
  have hassigns := course.assigns
  rw [hsampled] at hloads hassigns
  have hworking := eq_of_workingSet hholds hloads
  have hlabelled := eq_of_labelAll hassigns
  rw [hworking] at hlabelled
  obtain ⟨last, _, hsound, hpos, heq⟩ :=
    Limits.exists_sound_of_outcome_refine course.refines.outcome_eq
  have hassigned := hsound.assigned hpos
  rw [hworking] at hassigned
  rw [heq] at hlabelled ⊢
  exact ⟨hassigned.length_labels, hassigned.label_mem, hassigned.dead_eq, hlabelled⟩

theorem Course.ids_eq (course : clustering.Course store session) :
    course.refinement.centroids.map Centroid.id = clusterLabels course.seeding.achieved := by
  obtain ⟨_, _, hsound, -, heq⟩ :=
    Limits.exists_sound_of_outcome_refine course.refines.outcome_eq
  rw [heq]
  exact hsound.ids_eq

/-- Whatever the store holds, the assignments name centroids of the result. -/
theorem Course.centroidId_mem (course : clustering.Course store session) {a : Assignment}
    (ha : a ∈ course.assignments) :
    a.centroidId ∈ course.refinement.centroids.map Centroid.id := by
  have hassigns := course.assigns
  cases hsampled : course.sampled with
  | true =>
      rw [hsampled] at hassigns
      obtain ⟨_, _, -, hrest⟩ := answers_bind_iff.mp hassigns
      obtain ⟨expansion, _, hexpand, hpure⟩ := answers_bind_iff.mp hrest
      obtain ⟨heq, -⟩ := answers_pure_iff.mp hpure
      obtain ⟨hne, _, _, _, -, -, hnearest, -⟩ :=
        PointStore.exists_scanned_of_expand (answers_checkpointed_iff.mp hexpand)
      rw [show course.assignments = expansion.assignments from congrArg Prod.fst heq] at ha
      obtain ⟨point, -, id, d, hchosen, rfl⟩ := exists_mem_left_of_forall₂ hnearest ha
      exact PointStore.id_mem_of_nearest? hne hchosen
  | false =>
      rw [hsampled] at hassigns
      rw [(eq_of_labelAll hassigns).1] at ha
      obtain ⟨⟨point, label⟩, hmem, rfl⟩ := List.mem_map.mp ha
      obtain ⟨_, _, hsound, hpos, heq⟩ :=
        Limits.exists_sound_of_outcome_refine course.refines.outcome_eq
      have hlabel : label ∈ course.refinement.labels := (List.of_mem_zip hmem).2
      rw [heq] at hlabel
      rw [course.ids_eq]
      exact (hsound.assigned hpos).label_mem label hlabel

/-- Both ways to the assignments have one for each point. -/
theorem Course.forall₂_isAssigned (course : clustering.Course store session)
    (hholds : store.Holds points) (hne : points ≠ []) :
    List.Forall₂ (Point.IsAssigned course.seeding.achieved) points course.assignments ∧
      course.fit.isSome = clustering.withFit := by
  cases hsampled : course.sampled with
  | false =>
      obtain ⟨hlength, hlabels, -, hassignments, hfit⟩ :=
        course.labels_of_not_sampled hholds hsampled
      rw [hassignments]
      exact ⟨forall₂_isAssigned_zip hlength hlabels, hfit⟩
  | true =>
      have hassigns := course.assigns
      rw [hsampled] at hassigns
      obtain ⟨hcentroids, hnearest, hfit⟩ := nearest_of_expandSample hholds hassigns
      refine ⟨hnearest.imp ?_, hfit hne⟩
      rintro point _ ⟨id, d, hchosen, rfl⟩
      have hid := PointStore.id_mem_of_nearest? hcentroids hchosen
      rw [course.ids_eq] at hid
      exact ⟨rfl, rfl, mem_clusterLabels.mp hid⟩

theorem Course.wellFormed (course : clustering.Course store session)
    (hholds : store.Holds points) :
    course.result.WellFormed clustering points course.seeding.achieved := by
  obtain ⟨hpopulation, hkpos, hklt⟩ := bounds_of_validate hholds course.validates
  obtain ⟨hrequested, hseedpos, hseedle⟩ := bounds_of_seed course.seeds
  have hne : points ≠ [] := by
    rintro rfl
    exact absurd (hpopulation ▸ hklt) (Nat.not_lt_zero _)
  obtain ⟨hassigned, hfit⟩ := course.forall₂_isAssigned hholds hne
  have hlength : course.refinement.centroids.length = course.seeding.achieved := by
    simpa using congrArg List.length course.ids_eq
  exact {
    population_eq := hpopulation
    k_range := ⟨hkpos, hklt⟩
    requested_eq := rfl
    ids_eq := course.ids_eq
    seeded_range := ⟨hseedpos, hseedle⟩
    seeded_eq := fun hshortfall => by
      have hshort := isShort_eq_false_of_accept course.accepts hshortfall
      rw [Seeding.isShort, hrequested, decide_eq_false_iff_not] at hshort
      exact Nat.le_antisymm hseedle (Nat.le_of_not_lt hshort)
    isShort_iff := by
      change decide (course.refinement.centroids.length < clustering.k) = true ↔ _
      rw [hlength, decide_eq_true_iff]
    assignments := hassigned
    fit_isSome := hfit
    dead_eq := fun hsampled => by
      obtain ⟨hlength, -, hdead, hassignments, -⟩ := course.labels_of_not_sampled hholds hsampled
      have hlabels : course.assignments.map Assignment.centroidId = course.refinement.labels := by
        rw [hassignments, List.map_map]
        exact List.map_snd_zip (Nat.le_of_eq hlength)
      change course.refinement.dead = (clusterLabels _).filter fun id =>
        !(course.assignments.map Assignment.centroidId).contains id
      rw [hlabels, hdead] }

/-- For every population, all settings, every random source and every sampler, and
whenever the caller asks to stop: what a clustering answers is well formed, with as many
centroids as seeding alone answers in the same session. -/
theorem fit_wellFormed [Sampler ρ] (clustering : Clustering σ) (population : Population)
    {clustered : Clustered}
    (h : (clustering.fit population.store).outcome session = .ok clustered) :
    ∃ seeding, (clustering.seedCentroids population.store).outcome session = .ok seeding ∧
      clustered.WellFormed clustering population.points.toList seeding.achieved := by
  obtain ⟨after, hanswers⟩ := outcome_eq_ok_iff.mp h
  obtain ⟨course, rfl⟩ := exists_course hanswers
  have hseeding : (clustering.seedCentroids population.store).Answers session course.seeding
      course.seeded := answers_bind_iff.mpr ⟨_, _, course.validates, course.seeds⟩
  have hholds : (population.store : PointStore σ ρ).Holds population.points.toList :=
    PointStore.holds_population population
  exact ⟨course.seeding, hseeding.outcome_eq, course.wellFormed (hholds.timed _)⟩

/-- Three points on a line and one cluster. -/
theorem fit_wellFormed_onLine :
    let population : Population := ⟨(pointsOnLine [1.0, 2.0, 6.0]).toArray, by decide, by decide⟩
    let clustering : Clustering Unit := { k := 1, settings := { sampling := false } }
    let session : Session Unit SplitMix := { store := (), random := {} }
    ∃ clustered seeding,
      (clustering.fit population.store).outcome session = .ok clustered ∧
        (clustering.seedCentroids population.store).outcome session = .ok seeding ∧
        clustered.WellFormed clustering (pointsOnLine [1.0, 2.0, 6.0]) seeding.achieved ∧
        clustered.assignments.map Assignment.centroidId = [1, 1, 1] ∧
        clustered.fit = some 2.0 ∧ clustered.dead = [] := by
  intro population clustering session
  have hok : (clustering.fit population.store).outcome session = .ok {
      centroids := centroidsOnLine [3.0],
      assignments := (pointsOnLine [1.0, 2.0, 6.0]).map fun point => point.assignTo 1,
      fit := some 2.0, iterations := 2, reason := .belowLimit 0.001, changeTrace := [0.0],
      requested := 1, dead := [], population := 3, workingSize := 3, expanded := false } := by
    decide +kernel
  obtain ⟨seeding, hseeding, hwell⟩ := fit_wellFormed clustering population hok
  exact ⟨_, seeding, hok, hseeding, hwell, rfl, rfl, rfl⟩

end Clustering

end SampledKmeans
