import SampledKmeans.Proofs.Seeding
import SampledKmeans.Proofs.Store.Serves

/-!
# How seedings end

A seeding fails only as its store does, apart from a request that it refuses and a
number of centroids for which there is no room (`SeedPlan.ensures_seed`).  The
positions of its centroids are positions that the store supplies.
-/

namespace SampledKmeans

open Procedure

variable {σ ρ : Type} {P : SparseVector → Prop} {E : Failure → Prop} {store : PointStore σ ρ}
  {centroids : List Centroid}

theorem exists_coverage {k : Nat} {confidence : Float} (hk : k ≠ 0)
    (hconfidence : 0.0 < confidence ∧ confidence < 1.0) :
    ∃ draws, coverage k confidence = .ok draws := by
  rw [coverage, if_neg hk, if_pos hconfidence]
  exact ⟨_, rfl⟩

namespace SeedPlan

variable [RandomSource ρ] {plan : SeedPlan}

theorem ensures_weigh (h : store.Supplies P E) (hcentroids : ∀ c ∈ centroids, P c.position)
    {point : Point} (hpoint : P point.position) :
    Ensures E (weigh store centroids point) fun candidate => P candidate.point.position :=
  (ensures_draw _).bind fun _ _ =>
    (PointStore.ensures_minDistance (h.metric_of_mem hpoint hcentroids)).bind
      fun _ _ => ensures_pure hpoint

omit [RandomSource ρ] in
theorem ensures_farthest? (h : store.Supplies P E) (hcentroids : ∀ c ∈ centroids, P c.position) :
    Ensures E (farthest? store centroids) fun chosen =>
      ∀ point, chosen = some point → P point.position := by
  refine h.scan.bind fun items hitems => ?_
  refine (Ensures.mapM (R := fun entry : Point × Float => P entry.1.position)
    fun item hitem => ?_).bind fun measured hmeasured => ensures_pure fun point hchosen => ?_
  · exact (hitems.1 item hitem).ensures_check.bind fun point hpoint =>
      (PointStore.ensures_minDistance (h.metric_of_mem hpoint hcentroids)).bind
        fun _ _ => ensures_pure hpoint
  · obtain ⟨d, hmem, -⟩ := pickFarthest?_mem hchosen
    exact hmeasured.2 _ hmem

theorem ensures_next? (h : store.Supplies P E) (hcentroids : ∀ c ∈ centroids, P c.position)
    {pool : Nat} (hpool : 0 < pool) :
    Ensures E (plan.next? store pool centroids) fun chosen =>
      ∀ point, chosen = some point → P point.position := by
  rw [next?_eq]
  refine (h.sample pool hpool).bind fun points hpoints => ?_
  refine (Ensures.mapM fun p hp => ensures_weigh h hcentroids (hpoints.1 p hp)).bind
    fun candidates hcandidates => ?_
  split
  · rename_i point hpicked
    refine ensures_pure fun _ hsome => ?_
    obtain ⟨candidate, hmem, -, rfl⟩ := pickWeighted?_mem hpicked
    exact Option.some.inj hsome ▸ hcandidates.2 candidate hmem
  · exact ensures_farthest? h hcentroids

theorem ensures_grow (h : store.Supplies P E) {pool : Nat} (hpool : 0 < pool) (remaining : Nat)
    (hcentroids : ∀ c ∈ centroids, P c.position) :
    Ensures E (plan.grow store pool remaining centroids) fun result =>
      ∀ c ∈ result, P c.position := by
  induction remaining generalizing centroids with
  | zero => exact ensures_pure hcentroids
  | succ remaining ih =>
      rw [grow]
      refine (ensures_next? h hcentroids hpool).bind fun chosen hchosen => ?_
      cases chosen with
      | some point =>
          exact ih (List.forall_mem_append.mpr
            ⟨hcentroids, List.forall_mem_singleton.mpr (hchosen point rfl)⟩)
      | none => exact (ensures_report _).bind fun _ _ => ensures_pure hcentroids

theorem ensures_seed (h : store.Supplies P E) {pool : Nat}
    (hcoverage : coverage plan.k plan.confidence = .ok pool)
    (hroom : maxRows < plan.k → E .outOfMemory) :
    Ensures E (plan.seed store) fun seeding => ∀ c ∈ seeding.centroids, P c.position := by
  unfold seed
  rw [hcoverage]
  refine Ensures.bind (ensures_pure (Q := fun _ => True) trivial) fun pool _ => ?_
  refine (h.sample 1 Nat.one_pos).bind fun points hpoints => ?_
  cases points with
  | nil => exact ensures_fail (hpoints.2 rfl)
  | cons first rest =>
      have hfirst : ∀ c ∈ [(⟨1, first.position⟩ : Centroid)], P c.position :=
        List.forall_mem_singleton.mpr (hpoints.1 first List.mem_cons_self)
      exact (ensures_reserve hroom).bind fun _ _ =>
        (ensures_grow h (Nat.lt_of_lt_of_le Nat.one_pos (Nat.le_max_right _ _)) _ hfirst).bind
          fun _ hgrown => ensures_pure hgrown

end SeedPlan

end SampledKmeans
