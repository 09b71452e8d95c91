import SampledKmeans.Proofs.Refinement.Run
import SampledKmeans.Proofs.Store.Serves

/-!
# How refinements end

On a store that serves positions in `P` the centroids stay in `P`, since each of
them is a seed or a mean of working points, and a refinement fails only as the
store does.  Counting labels is safe in every state that a run reaches, and the
arguments are refused only where there is nothing to work on
(`Limits.ensures_refine`).
-/

namespace SampledKmeans

open Procedure

variable {σ ρ : Type} {P : SparseVector → Prop} {E : Failure → Prop} {store : PointStore σ ρ}
  {working : List Point}

theorem forall_mem_membersOf {labels : List Nat} {label : Nat}
    (hworking : ∀ p ∈ working, P p.position) : ∀ v ∈ membersOf working labels label, P v := by
  intro v hv
  rw [membersOf_eq] at hv
  obtain ⟨j, -, rfl⟩ := List.mem_map.mp hv
  exact hworking _ (List.getElem_mem j.isLt)

/-- A centroid stays where it is or moves to a mean of working points. -/
theorem PointStore.Serves.ensures_recenter (h : store.Serves P E)
    (hworking : ∀ p ∈ working, P p.position) (labels : List Nat) {centroid : Centroid}
    (hcentroid : P centroid.position) :
    Ensures E (store.recenter working labels centroid) fun moved => P moved.position := by
  rw [PointStore.recenter_eq]
  split_ifs with hmembers
  · exact ensures_pure hcentroid
  · exact (h.mean _ hmembers (forall_mem_membersOf hworking)).bind fun _ hv => ensures_pure hv

/-! ## One iteration -/

theorem Progress.Sound.ensures_advance {progress : Progress} {k : Nat}
    (hsound : progress.Sound working k) (hk : 0 < k) (h : store.Serves P E)
    (hworking : ∀ p ∈ working, P p.position) (hcentroids : ∀ c ∈ progress.centroids, P c.position) :
    Ensures E (progress.advance store working) fun next => ∀ c ∈ next.centroids, P c.position := by
  rw [Progress.advance_eq]
  refine (ensures_report _).bind fun _ _ => ?_
  have hassign := PointStore.ensures_assign fun p hp => h.metric_of_mem (hworking p hp) hcentroids
  refine (hassign.and_answer
    (R := fun labels => store.labels? working progress.centroids = some labels)
    fun hassign => ?_).bind fun labels hlabels => ?_
  · rw [PointStore.assign_eq, answers_expect_iff] at hassign
    exact hassign.1
  refine (ensures_expect fun hcounts => ?_).bind fun counts _ => ?_
  · -- Labels that come from centroids with these numbers can be counted.
    rw [hsound.length_centroids, labelCounts?_eq_some (hsound.label_mem_of_labels? hk hlabels.2)]
      at hcounts
    cases hcounts
  refine Ensures.bind ((Ensures.mapM fun c hc =>
    h.ensures_recenter hworking labels (hcentroids c hc)).checkpointed (h.checkpoint _)) ?_
  exact fun moved hmoved => ensures_pure hmoved.2

/-! ## All iterations -/

namespace Limits

variable {limits : Limits} {stop : StopSignal σ} {seeds : List Centroid} {progress : Progress}
  {session after : Session σ ρ}

theorem Reaches.forall_centroids
    (hreaches : limits.Reaches store stop working seeds session progress after)
    (hadmits : limits.Admits working seeds) (h : store.Serves P E)
    (hworking : ∀ p ∈ working, P p.position) (hseeds : ∀ c ∈ seeds, P c.position) :
    ∀ c ∈ progress.centroids, P c.position := by
  induction hreaches with
  | start => exact hseeds
  | next reached _ answers ih =>
      exact ((reached.sound_of_admits hadmits).ensures_advance hadmits.seeds_pos h hworking
        ih).answer answers

/-- A refinement of seeds that are numbered in order. -/
theorem ensures_refine (h : store.Serves P E) (hworking : ∀ p ∈ working, P p.position)
    (hempty : working = [] → E (.error .emptyInput)) (hseeds : ∀ c ∈ seeds, P c.position)
    (hne : seeds ≠ []) (hids : seeds.map Centroid.id = clusterLabels seeds.length)
    (hmax : 0 < limits.maxIterations) :
    Ensures E (limits.refine store stop working seeds) fun refinement =>
      working ≠ [] ∧ ∀ c ∈ refinement.centroids, P c.position := by
  by_cases hnil : working = []
  · unfold refine refineWith
    rw [if_pos (by simp [hnil])]
    exact ensures_fail (hempty hnil)
  have hadmits : limits.Admits working seeds := ⟨hnil, hne, hmax, hids⟩
  constructor
  · intro session after refinement hanswers
    obtain ⟨last, _, _, hreaches, -, rfl⟩ :=
      (outcome_refine_eq_ok_iff hadmits).mp hanswers.outcome_eq
    exact ⟨hnil, hreaches.forall_centroids hadmits h hworking hseeds⟩
  · intro session after failure hfails
    obtain ⟨last, _, _, hreaches, -, hadvance⟩ :=
      (outcome_refine_eq_error_iff hadmits).mp hfails.outcome_eq
    exact ((hreaches.sound_of_admits hadmits).ensures_advance hadmits.seeds_pos h hworking
      (hreaches.forall_centroids hadmits h hworking hseeds)).failure hadvance

end Limits

end SampledKmeans
