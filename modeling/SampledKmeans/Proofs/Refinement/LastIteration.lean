import SampledKmeans.Proofs.Refinement.Contract
import SampledKmeans.Proofs.Refinement.Replay

/-!
# The last iteration

The answer of a refinement is what its last iteration made of the centroids
before it.  Those are the answer of a shorter run, so that the labels, the means
and the centroids that stayed can be told from outside.
-/

namespace SampledKmeans

open Procedure

variable {σ ρ : Type} {store : PointStore σ ρ} {working : List Point} {seeds : List Centroid}
  {progress next : Progress} {session after : Session σ ρ} {k : Nat}

theorem PointStore.forall₂_nearest_of_labels? {centroids : List Centroid} {labels : List Nat}
    (h : store.labels? working centroids = some labels) :
    List.Forall₂ (fun point label =>
      ∃ distance, store.nearest point.position centroids = pure (label, distance)) working
      labels := by
  refine (PointStore.labels?_eq_some_iff.mp h).imp fun point label => ?_
  rintro ⟨distance, hnearest⟩
  exact ⟨distance, by rw [nearest_eq, hnearest]; rfl⟩

theorem Progress.Sound.getElem?_centroids (hsound : progress.Sound working k) {id : Nat}
    (hid : id ∈ clusterLabels k) :
    ∃ position, progress.centroids[id - 1]? = some ⟨id, position⟩ := by
  have hget := getElem?_clusterLabels hid
  rw [← hsound.ids_eq, List.getElem?_map, Option.map_eq_some_iff] at hget
  obtain ⟨⟨_, position⟩, hget, rfl⟩ := hget
  exact ⟨position, hget⟩

/-- An iteration moves a centroid to the mean of the points with its label, or
leaves it where it is when there are none. -/
theorem Progress.Sound.getElem?_of_advance {mean : List SparseVector → Except Error SparseVector}
    (hsound : progress.Sound working k) (hmean : store.HasMean mean)
    (h : (progress.advance store working).Answers session next after) {id : Nat}
    (hid : id ∈ clusterLabels k) :
    ∃ position, next.centroids[id - 1]? = some ⟨id, position⟩ ∧
      (id ∈ next.labels → mean (labelledPositions working next.labels id) = .ok position) ∧
      (id ∉ next.labels → progress.centroids[id - 1]? = some ⟨id, position⟩) := by
  obtain ⟨labels, counts, centroids, hlabels, -, hmeans, rfl⟩ := answers_advance_iff.mp h
  obtain ⟨position, hposition⟩ := hsound.getElem?_centroids hid
  obtain ⟨moved, before, behind, hmoved, hrecenter⟩ :=
    PointStore.exists_recentered hmeans hposition
  have hmembers : membersOf working labels id = [] ↔ id ∉ labels :=
    membersOf_eq_nil_iff (PointStore.length_of_labels? hlabels)
  rcases PointStore.answers_recenter_iff.mp hrecenter with ⟨hnil, rfl, -⟩ |
    ⟨hne, position', hasked, rfl⟩
  · exact ⟨position, hmoved, fun hmem => absurd hmem (hmembers.mp hnil), fun _ => hposition⟩
  · refine ⟨position', hmoved, fun _ => ?_, fun hmem => absurd (hmembers.mpr hmem) hne⟩
    rw [← hmean, ← membersOf_eq]
    exact (answers_call_iff.mp hasked).1

namespace Limits

variable {limits : Limits} {stop : StopSignal σ} {result : Refinement}
  {mean : List SparseVector → Except Error SparseVector}

/-- Let `previous` be the seeds, if there was one iteration, or the centroids of
the same refinement with one iteration less.  Then every working point has the
label of the nearest centroid in `previous`; the centroids that are labels are
at the mean of the points that have the label, each point once and in order; and
the others are where they were in `previous` and are listed as dead. -/
theorem refine_last_iteration (hmean : store.HasMean mean)
    (h : (limits.refine store stop working seeds).outcome session = .ok result) :
    ∃ previous : List Centroid,
      (result.iterations = 1 → previous = seeds) ∧
      (result.iterations ≠ 1 → ∀ other : Session σ ρ, ∃ shorter,
        ((limits.cappedAt (result.iterations - 1)).refine store .never working seeds).outcome
          other = .ok shorter ∧ shorter.centroids = previous) ∧
      List.Forall₂ (fun point label =>
        ∃ distance, store.nearest point.position previous = pure (label, distance)) working
        result.labels ∧
      ∀ id, 1 ≤ id → id ≤ seeds.length → ∃ position,
        result.centroids[id - 1]? = some ⟨id, position⟩ ∧
        (id ∈ result.labels → mean (labelledPositions working result.labels id) = .ok position) ∧
        (id ∉ result.labels →
          previous[id - 1]? = some ⟨id, position⟩ ∧ id ∈ result.dead) := by
  have hadmits := admits_of_outcome_refine h
  obtain ⟨last, after, reason, hlast, hending, rfl⟩ := (outcome_refine_eq_ok_iff hadmits).mp h
  have hpos := iterations_pos_of_ending? hlast hadmits.maxIterations_pos hending
  have hwell := (hlast.sound_of_admits hadmits).wellFormed_finish hpos reason
  cases hlast with
  | start => exact absurd hpos (Nat.lt_irrefl 0)
  | @next before _ _ _ hreaches _ hanswers =>
      have hsound := hreaches.sound_of_admits hadmits
      have hcount := Progress.iterations_of_answers hanswers
      obtain ⟨labels, counts, centroids, hlabels, -, -, heq⟩ :=
        Progress.answers_advance_iff.mp hanswers
      refine ⟨before.centroids, fun hone => ?_, fun hne other => ?_, ?_, fun id hid hle => ?_⟩
      · change last.iterations = 1 at hone
        rw [hreaches.eq_start_of_iterations_eq_zero (by omega)]
        rfl
      · change last.iterations ≠ 1 at hne
        rw [show (last.finish reason).iterations - 1 = before.iterations from by
          rw [Progress.finish, hcount, Nat.add_sub_cancel]]
        exact ⟨_, Reaches.outcome_refine_replay hreaches hadmits (by omega) hmean other, rfl⟩
      · rw [show (last.finish reason).labels = labels from congrArg Progress.labels heq]
        exact PointStore.forall₂_nearest_of_labels? hlabels
      · obtain ⟨position, hposition, haveraged, hkept⟩ :=
          hsound.getElem?_of_advance hmean hanswers (mem_clusterLabels.mpr ⟨hid, hle⟩)
        exact ⟨position, hposition, haveraged, fun hmem =>
          ⟨hkept hmem, (hwell.mem_dead_iff id).mpr ⟨⟨hid, hle⟩, hmem⟩⟩⟩

/-- In the third iteration the first cluster has three points, the second one,
and the third, which is far away, none. -/
theorem refine_last_iteration_onLine :
    let store : PointStore Unit SplitMix := Population.empty.store
    let session : Session Unit SplitMix := { store := (), random := {} }
    let limits : Limits := { maxIterations := 3 }
    let working := pointsOnLine [1.0, 2.0, 3.0, 8.0]
    let seeds := centroidsOnLine [1.0, 2.0, 50.0]
    store.HasMean meanOf ∧ ∃ result previous,
      (limits.refine store .never working seeds).outcome session = .ok result ∧
        result.iterations = 3 ∧
        (∃ shorter, ((limits.cappedAt 2).refine store .never working seeds).outcome session =
          .ok shorter ∧ shorter.centroids = previous) ∧
        meanOf (labelledPositions working result.labels 1) = .ok (.onLine 2.0) ∧
        previous[2]? = some ⟨3, .onLine 50.0⟩ ∧ 3 ∈ result.dead := by
  intro store session limits working seeds
  have hmean : store.HasMean meanOf := fun _ _ => rfl
  have hok : (limits.refine store .never working seeds).outcome session = .ok {
      centroids := centroidsOnLine [2.0, 8.0, 50.0], labels := [1, 1, 1, 2], iterations := 3,
      reason := .iterationLimit 3, changeTrace := [0.5, 0.5], dead := [3] } := by
    decide +kernel
  obtain ⟨previous, -, hshorter, -, hclusters⟩ := refine_last_iteration hmean hok
  obtain ⟨first, hfirst, haveraged, -⟩ := hclusters 1 (by decide) (by decide)
  obtain ⟨third, hthird, -, hkept⟩ := hclusters 3 (by decide) (by decide)
  cases hfirst
  cases hthird
  exact ⟨hmean, _, previous, hok, rfl, hshorter (by decide) session, haveraged (by decide),
    hkept (by decide)⟩

end Limits

end SampledKmeans
