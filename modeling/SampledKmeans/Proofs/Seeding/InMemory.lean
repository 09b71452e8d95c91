import SampledKmeans.Proofs.Random.Subset
import SampledKmeans.Proofs.Seeding.Endings
import SampledKmeans.Proofs.Seeding.Soundness
import SampledKmeans.Proofs.Store.Population
import SampledKmeans.Proofs.Vector.Gaps

/-!
# Seeding from points in memory

A population always has a seeding, and its centroids have different positions, so
that there are at most as many as different positions.  If there are fewer than
asked for, the squared differences of every point to one of them are zero at all
indices (`SeedPlan.seed_inMemory`).

Only where the squares of small differences are zero can this leave a position
out.  If any two positions have a squared difference that is not zero, there are
as many centroids as asked for, or as different positions.
-/

namespace SampledKmeans

open Procedure

variable {σ ρ : Type} {store : PointStore σ ρ} {centroids : List Centroid}
  {points : List Point}

namespace SeedPlan

variable [RandomSource ρ] {plan : SeedPlan} {before after : Session σ ρ} {pool : Nat}

/-- A round finds no centroid when all points of the store coincide with centroids. -/
theorem coincide_of_next? (h : (plan.next? store pool centroids).Answers before none after)
    (hholds : store.Holds points) : ∀ p ∈ points, store.Coincides centroids p.position := by
  obtain ⟨_, _, _, weighed, -, -, ⟨_, -, hsome, -⟩ | ⟨-, hfarthest⟩⟩ := answers_next?_iff.mp h
  · cases hsome
  · let round : SeedRound := ⟨pool, .ok [], some (store.scan weighed.store).1⟩
    have hchooses : round.Chooses store centroids none := chooses_of_farthest? rfl hfarthest
    obtain ⟨reply, items, found, hreply, hok, hcollect, hcoincide⟩ := hchooses
    obtain rfl := Option.some.inj hreply
    rwa [hholds.scan_eq _ _ _ hok hcollect] at hcoincide

/-- A seeding that falls short has a centroid for every point. -/
theorem coincide_of_short {seeding : Seeding} (h : (plan.seed store).Answers before seeding after)
    (hshort : seeding.achieved < plan.k) (hholds : store.Holds points) :
    ∀ p ∈ points, store.Coincides seeding.centroids p.position := by
  obtain ⟨-, pool, between, -, hends⟩ := answers_seed_iff.mp h
  cases hends with
  | complete hall => exact absurd hall (Nat.ne_of_lt hshort)
  | short _ hanswers _ => exact coincide_of_next? hanswers hholds

end SeedPlan

/-! ## Populations -/

namespace Population

variable [RandomSource ρ] [Sampler ρ] {plan : SeedPlan} {population : Population}
  {session after : Session σ ρ} {seeding : Seeding}

theorem exists_seeding [LawfulSampler ρ] (population : Population) (plan : SeedPlan)
    (session : Session σ ρ)
    (hbalanced : ∀ v ∈ population.positions, v.Balanced) (hpos : 0 < population.size)
    (hk : 0 < plan.k) (hroom : plan.k ≤ maxRows)
    (hconfidence : 0.0 < plan.confidence ∧ plan.confidence < 1.0) :
    ∃ seeding after, (plan.seed population.store).Answers session seeding after ∧
      ∀ c ∈ seeding.centroids, c.position ∈ population.positions := by
  obtain ⟨draws, hdraws⟩ := exists_coverage (Nat.ne_of_gt hk) hconfidence
  have hensures : Ensures (fun _ => False) (plan.seed (population.store : PointStore σ ρ)) _ :=
    SeedPlan.ensures_seed (population.supplies hbalanced hpos) hdraws
      fun hrows => Nat.not_lt.mpr hroom hrows
  rcases answers_or_fails (plan.seed population.store) session with
    ⟨seeding, after, hanswers⟩ | ⟨failure, after, hfails⟩
  · exact ⟨seeding, after, hanswers, hensures.answer hanswers⟩
  · exact (hensures.failure hfails).elim

theorem nodup_positions_of_seed (hvalid : ∀ v ∈ population.positions, v.Valid)
    (h : (plan.seed population.store).Answers session seeding after)
    (hcentroids : ∀ c ∈ seeding.centroids, c.position ∈ population.positions) :
    (seeding.centroids.map Centroid.position).Nodup := by
  obtain ⟨_, _, _, -, hended, hanswers⟩ := plan.exists_rounds_of_seed population.store session
  obtain ⟨rfl, -⟩ := hanswers seeding after h
  refine List.pairwise_map.mpr (hended.choose.apart.imp_of_mem fun hmem _ hdistance heq => ?_)
  obtain ⟨d, hmetric, hpositive⟩ := hdistance
  rw [← heq] at hmetric
  exact hpositive (SparseVector.distance?_self_le_zero (hvalid _ (hcentroids _ hmem)) hmetric)

theorem achieved_le (hvalid : ∀ v ∈ population.positions, v.Valid)
    (h : (plan.seed population.store).Answers session seeding after)
    (hcentroids : ∀ c ∈ seeding.centroids, c.position ∈ population.positions) :
    seeding.achieved ≤ population.positions.dedup.length := by
  have hsubset : seeding.centroids.map Centroid.position ⊆ population.positions.dedup := by
    intro v hv
    obtain ⟨c, hc, rfl⟩ := List.mem_map.mp hv
    exact List.mem_dedup.mpr (hcentroids c hc)
  have hle := ((nodup_positions_of_seed hvalid h hcentroids).subperm hsubset).length_le
  rwa [List.length_map] at hle

theorem squareAt_eq_zero_of_short (hvalid : ∀ v ∈ population.positions, v.Valid)
    (h : (plan.seed population.store).Answers session seeding after)
    (hcentroids : ∀ c ∈ seeding.centroids, c.position ∈ population.positions)
    (hshort : seeding.achieved < plan.k) :
    ∀ v ∈ population.positions, ∃ c ∈ seeding.centroids, ∀ i, v.squareAt c.position i = 0.0 := by
  intro v hv
  obtain ⟨p, hp, rfl⟩ := List.mem_map.mp hv
  obtain ⟨c, hc, d, hmetric, hle⟩ :=
    SeedPlan.coincide_of_short h hshort (PointStore.holds_population population) p hp
  exact ⟨c, hc, (SparseVector.distance?_le_zero_iff (hvalid _ hv)
    (hvalid _ (hcentroids c hc)) hmetric).mp hle⟩

/-- If squared differences tell different positions apart, there are as many centroids as
there can be. -/
theorem achieved_eq_min (hvalid : ∀ v ∈ population.positions, v.Valid)
    (h : (plan.seed population.store).Answers session seeding after)
    (hcentroids : ∀ c ∈ seeding.centroids, c.position ∈ population.positions)
    (hapart : ∀ u ∈ population.positions, ∀ v ∈ population.positions, u ≠ v →
      ∃ i, u.squareAt v i ≠ 0.0) :
    seeding.achieved = min plan.k population.positions.dedup.length := by
  have hlek : seeding.achieved ≤ plan.k := (SeedPlan.bounds_of_seed h).2.2
  have hle := achieved_le hvalid h hcentroids
  by_cases hshort : seeding.achieved < plan.k
  · -- Every position is that of a centroid.
    have hsubset : population.positions.dedup ⊆ seeding.centroids.map Centroid.position := by
      intro v hv
      have hmem : v ∈ population.positions := List.mem_dedup.mp hv
      obtain ⟨c, hc, hsquares⟩ := squareAt_eq_zero_of_short hvalid h hcentroids hshort v hmem
      refine List.mem_map.mpr ⟨c, hc, ?_⟩
      by_contra hne
      obtain ⟨i, hi⟩ := hapart v hmem c.position (hcentroids c hc) (Ne.symm hne)
      exact hi (hsquares i)
    have hge := ((List.nodup_dedup population.positions).subperm hsubset).length_le
    rw [List.length_map] at hge
    change _ ≤ seeding.achieved at hge
    omega
  · omega

theorem exists_seeding_of_apart [LawfulSampler ρ] (plan : SeedPlan) (session : Session σ ρ)
    (hvalid : ∀ v ∈ population.positions, v.Valid) (hpos : 0 < population.size)
    (hk : 0 < plan.k) (hroom : plan.k ≤ maxRows)
    (hconfidence : 0.0 < plan.confidence ∧ plan.confidence < 1.0)
    (hapart : ∀ u ∈ population.positions, ∀ v ∈ population.positions, u ≠ v →
      ∃ i, u.squareAt v i ≠ 0.0) :
    ∃ seeding after, (plan.seed population.store).Answers session seeding after ∧
      seeding.achieved = min plan.k population.positions.dedup.length := by
  obtain ⟨seeding, after, hanswers, hcentroids⟩ := population.exists_seeding plan session
    (fun v hv => (hvalid v hv).balanced) hpos hk hroom hconfidence
  exact ⟨seeding, after, hanswers, achieved_eq_min hvalid hanswers hcentroids hapart⟩

end Population

/-- A seeding of points in memory finds no more centroids than are asked for, or than
there are different positions.  If it finds fewer than are asked for, no squared
difference is left between any point and one of them; if squared differences tell
different positions apart, it finds as many as it can. -/
theorem SeedPlan.seed_inMemory [RandomSource ρ] [Sampler ρ] [LawfulSampler ρ] (plan : SeedPlan)
    (population : Population) (session : Session σ ρ)
    (hvalid : ∀ v ∈ population.positions, v.Valid)
    (hpos : 0 < population.size) (hk : 0 < plan.k) (hroom : plan.k ≤ maxRows)
    (hconfidence : 0.0 < plan.confidence ∧ plan.confidence < 1.0) :
    ∃ seeding, (plan.seed population.store).outcome session = .ok seeding ∧
      seeding.achieved ≤ min plan.k population.positions.dedup.length ∧
      (seeding.achieved < plan.k → ∀ v ∈ population.positions,
        ∃ c ∈ seeding.centroids, ∀ i, v.squareAt c.position i = 0.0) ∧
      ((∀ u ∈ population.positions, ∀ v ∈ population.positions, u ≠ v →
          ∃ i, u.squareAt v i ≠ 0.0) →
        seeding.achieved = min plan.k population.positions.dedup.length) := by
  obtain ⟨seeding, after, hanswers, hcentroids⟩ := population.exists_seeding plan session
    (fun v hv => (hvalid v hv).balanced) hpos hk hroom hconfidence
  have hlek : seeding.achieved ≤ plan.k := (bounds_of_seed hanswers).2.2
  have hle := Population.achieved_le hvalid hanswers hcentroids
  exact ⟨seeding, hanswers.outcome_eq, Nat.le_min.mpr ⟨hlek, hle⟩,
    Population.squareAt_eq_zero_of_short hvalid hanswers hcentroids,
    Population.achieved_eq_min hvalid hanswers hcentroids⟩

/-- Points on a line, at numbers that can be stored. -/
theorem Population.valid_onLine {population : Population} {xs : List Float}
    (hpoints : population.points.toList = pointsOnLine xs)
    (hstored : ∀ x ∈ xs, x.isFinite = true ∧ (x != 0.0) = true) :
    ∀ v ∈ population.positions, v.Valid := by
  intro v hv
  obtain ⟨p, hp, rfl⟩ := List.mem_map.mp hv
  rw [hpoints] at hp
  obtain ⟨i, hi, rfl⟩ := List.mem_mapIdx.mp hp
  obtain ⟨hfinite, hnonzero⟩ := hstored xs[i] (List.getElem_mem hi)
  exact ⟨rfl, List.pairwise_singleton _ _, List.forall_mem_singleton.mpr hfinite,
    List.forall_mem_singleton.mpr hnonzero⟩

/-- Two different positions, where three centroids are asked for. -/
theorem SeedPlan.seed_inMemory_onLine :
    let population : Population := ⟨(pointsOnLine [1.0, 1.0, 6.0]).toArray, by decide, by decide⟩
    let plan : SeedPlan := { k := 3 }
    let session : Session Unit SplitMix := { store := (), random := {} }
    (∀ v ∈ population.positions, v.Valid) ∧ 0 < population.size ∧ 0 < plan.k ∧
      plan.k ≤ maxRows ∧ (0.0 < plan.confidence ∧ plan.confidence < 1.0) ∧
      ∃ seeding, (plan.seed population.store).outcome session = .ok seeding ∧
        seeding.achieved = 2 := by
  intro population plan session
  have hvalid : ∀ v ∈ population.positions, v.Valid :=
    Population.valid_onLine (show _ = pointsOnLine [1.0, 1.0, 6.0] from rfl) (by decide +kernel)
  have hpos : 0 < population.size := by decide
  have hk : 0 < plan.k := by decide
  have hroom : plan.k ≤ maxRows := by decide
  have hconfidence : 0.0 < plan.confidence ∧ plan.confidence < 1.0 := by decide +kernel
  obtain ⟨seeding, houtcome, -, -, hachieved⟩ :=
    plan.seed_inMemory population session hvalid hpos hk hroom hconfidence
  have hapart : ∀ u ∈ population.positions, ∀ v ∈ population.positions, u ≠ v →
      u.squareAt v 0 ≠ 0.0 := by
    decide +kernel
  have hdistinct : min plan.k population.positions.dedup.length = 2 := by decide +kernel
  refine ⟨hvalid, hpos, hk, hroom, hconfidence, seeding, houtcome, ?_⟩
  rw [hachieved fun u hu v hv hne => ⟨0, hapart u hu v hv hne⟩, hdistinct]

end SampledKmeans
