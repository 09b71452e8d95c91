import SampledKmeans.Proofs.Refinement.Run
import SampledKmeans.Proofs.Vector.Mean

/-!
# Positions of centroids

A centroid stands where a seed stood, or at a mean of working points that was
answered in some iteration.  What holds of the seeds and of these means holds of every
position in every state of a refinement (`Reaches.forall_position`).

With element-wise means the positions are therefore tidy, and they are valid as long
as no sum of working points leaves the finite numbers.
-/

namespace SampledKmeans

open Procedure

variable {σ ρ : Type} {store : PointStore σ ρ} {working : List Point} {seeds : List Centroid}
  {stop : StopSignal σ} {limits : Limits} {session after : Session σ ρ} {progress : Progress}

theorem membersOf_sublist (points : List Point) (labels : List Nat) (label : Nat) :
    (membersOf points labels label).Sublist (points.map Point.position) := by
  induction points generalizing labels with
  | nil => exact List.nil_sublist _
  | cons p points ih =>
      cases labels with
      | nil => exact List.nil_sublist _
      | cons l labels =>
          by_cases h : l = label
          · simpa [membersOf, h] using ih labels
          · simpa [membersOf, h] using (ih labels).cons p.position

/-- A property of the seeds and of all means of working points. -/
theorem Limits.Reaches.forall_position {P : SparseVector → Prop}
    (h : limits.Reaches store stop working seeds session progress after)
    (hseeds : ∀ c ∈ seeds, P c.position)
    (hmeans : ∀ members, members.Sublist (working.map Point.position) → members ≠ [] →
      ∀ state mean, (store.mean members state).1.outcome = .ok mean → P mean) :
    ∀ c ∈ progress.centroids, P c.position := by
  induction h with
  | start => exact hseeds
  | next _ _ hanswers ih =>
      obtain ⟨labels, counts, centroids, -, -, hmoved, rfl⟩ :=
        Progress.answers_advance_iff.mp hanswers
      intro c hc
      obtain ⟨before, hbefore, between, behind, hrecenter⟩ :=
        exists_mem_left_of_forall₂ (forall₂_of_answers_mapM hmoved) hc
      rcases PointStore.answers_recenter_iff.mp hrecenter with
        ⟨-, rfl, -⟩ | ⟨hmembers, position, hmean, rfl⟩
      · exact ih _ hbefore
      · obtain ⟨hok, -⟩ := answers_call_iff.mp hmean
        exact hmeans _ (membersOf_sublist working labels _) hmembers _ _ hok

theorem meanOf_guarantees {vectors : List SparseVector} (h : vectors ≠ []) :
    ∃ mean, meanOf vectors = .ok mean ∧ mean.Tidy ∧
      (SparseVector.ofLists mean.indices mean.values = .ok mean ↔
        ∀ i, (SparseVector.sumAt vectors i).isFinite = true) := by
  obtain ⟨mean, hmean, hguarantees⟩ := SparseVector.mean?_guarantees h
  exact ⟨mean, by rw [meanOf, hmean], hguarantees⟩

/-- Every non-empty list of vectors has a mean, which is tidy.  It passes the checks of
the constructors unchanged when the sums at all indices are finite, and they are
where the values lie within the step, however many vectors there are.  With such
means every centroid of a refinement is at a tidy position in every state, and at
one that passes the checks if the sums of working points are finite. -/
theorem valid_positions_of_finite_sums {vectors : List SparseVector} (hne : vectors ≠ []) :
    (∃ mean, meanOf vectors = .ok mean ∧ mean.Tidy ∧
      (SparseVector.ofLists mean.indices mean.values = .ok mean ↔
        ∀ i, (SparseVector.sumAt vectors i).isFinite = true)) ∧
    ((∀ v ∈ vectors, ∀ x ∈ v.values, -Number.overflowStep < x ∧ x < Number.overflowStep) →
      ∀ i, (SparseVector.sumAt vectors i).isFinite = true) ∧
    ∀ {σ ρ : Type} {store : PointStore σ ρ} {limits : Limits} {stop : StopSignal σ}
      {working : List Point} {seeds : List Centroid} {session after : Session σ ρ}
      {progress : Progress},
      (∀ positions state mean, (store.mean positions state).1.outcome = .ok mean →
        meanOf positions = .ok mean) →
      (∀ c ∈ seeds, c.position.Valid) →
      limits.Reaches store stop working seeds session progress after →
        (∀ c ∈ progress.centroids, c.position.Tidy) ∧
        ((∀ members, members.Sublist (working.map Point.position) → members ≠ [] →
          ∀ i, (SparseVector.sumAt members i).isFinite = true) →
            ∀ c ∈ progress.centroids, SparseVector.ofLists c.position.indices c.position.values =
              .ok c.position) := by
  refine ⟨meanOf_guarantees hne, SparseVector.isFinite_sumAt, ?_⟩
  intro σ ρ store limits stop working seeds session after progress hmean hseeds hreaches
  constructor
  · refine hreaches.forall_position (fun c hc => (hseeds c hc).tidy) ?_
    intro members _ hmembers state mean hok
    obtain ⟨mean', hmean', htidy, -⟩ := meanOf_guarantees hmembers
    obtain rfl := Except.ok.inj (hmean'.symm.trans (hmean members state mean hok))
    exact htidy
  · intro hsums
    refine hreaches.forall_position (P := fun v => SparseVector.ofLists v.indices v.values = .ok v)
      (fun c hc => (hseeds c hc).tidy.ofLists_eq_ok_iff.mpr (hseeds c hc).finite) ?_
    intro members hsublist hmembers state mean hok
    obtain ⟨mean', hmean', -, hvalid⟩ := meanOf_guarantees hmembers
    obtain rfl := Except.ok.inj (hmean'.symm.trans (hmean members state mean hok))
    exact hvalid.mpr (hsums members hsublist hmembers)

/-- Three points on a line, of which two share a centroid after an iteration. -/
theorem valid_positions_of_finite_sums_onLine :
    let store : PointStore Unit SplitMix := Population.empty.store
    let session : Session Unit SplitMix := { store := (), random := {} }
    let working := pointsOnLine [1.0, 3.0, 8.0]
    let seeds := centroidsOnLine [1.0, 8.0]
    SparseVector.ofLists [0] [4.0] = .ok (.onLine 4.0) ∧
      ∃ progress after,
        ({} : Limits).Reaches store .never working seeds session progress after ∧
          progress.centroids = centroidsOnLine [2.0, 8.0] ∧
          ∀ c ∈ progress.centroids,
            SparseVector.ofLists c.position.indices c.position.values = .ok c.position := by
  intro store session working seeds
  have hvalues : ∀ v ∈ working.map Point.position, ∀ x ∈ v.values,
      -Number.overflowStep < x ∧ x < Number.overflowStep := by decide +kernel
  have hne : working.map Point.position ≠ [] := List.cons_ne_nil _ _
  obtain ⟨⟨mean, hmean, -, hchecks⟩, hwithin, hrefinement⟩ := valid_positions_of_finite_sums hne
  obtain rfl : mean = .onLine 4.0 :=
    Except.ok.inj (hmean.symm.trans (by decide +kernel))
  let first : Progress := {
    iterations := 1, centroids := centroidsOnLine [2.0, 8.0], labels := [1, 1, 2],
    counts := some [2, 1], changeTrace := [], dead := [] }
  have hfirst : ({} : Limits).Reaches store .never working seeds session first _ :=
    .next .start (by decide +kernel) (Procedure.answers_of_outcome_eq (by decide +kernel))
  have hseeds : ∀ c ∈ seeds, c.position.Valid := by decide +kernel
  refine ⟨hchecks.mpr (hwithin hvalues), first, _, hfirst, rfl,
    (hrefinement (fun _ _ _ h => h) hseeds hfirst).2 ?_⟩
  intro members hsublist hmembers
  exact (valid_positions_of_finite_sums hmembers).2.1
    fun v hv => hvalues v (hsublist.subset hv)

end SampledKmeans
