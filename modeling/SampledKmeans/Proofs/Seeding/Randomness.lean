import SampledKmeans.Proofs.Procedure.Advances
import SampledKmeans.Proofs.Seeding.Rounds
import SampledKmeans.Proofs.Nearest.Coincidence
import SampledKmeans.Proofs.Store.Population
import SampledKmeans.Store.Timed

/-!
# What a seeding draws

On a store that samples from a population, every round of a seeding draws the same
words from the random source, whatever the points are: a subset of the positions,
and one number for each of them (`RandomSource.afterRound`).  A candidate is drawn for
even if it coincides with a centroid, and a scan draws nothing.  The source before a
round is therefore given by the number of rounds before it
(`SeedPlan.Reaches.random_eq`).
-/

namespace SampledKmeans

open Procedure

variable {σ ρ : Type}

/-! ## Stores that sample from a population -/

section Samples

variable [Sampler ρ]

namespace Sampler

/-- The positions of a sample of `n` points. -/
def drawn (size n : Nat) (source : ρ) : List Nat :=
  (subset size (min n size) source).1

/-- The source after a sample of `n` points. -/
def afterSample (size n : Nat) (source : ρ) : ρ :=
  (subset size (min n size) source).2

variable [LawfulSampler ρ] {size n i : Nat} {source : ρ}

theorem drawn_lt (h : i ∈ drawn size n source) : i < size :=
  LawfulSampler.lt_of_mem_subset (Nat.min_le_right n size) source i h

theorem length_drawn : (drawn size n source).length = min n size :=
  LawfulSampler.length_subset (Nat.min_le_right n size) source

theorem nodup_drawn : (drawn size n source).Nodup :=
  LawfulSampler.nodup_subset (Nat.min_le_right n size) source

end Sampler

open Sampler

/-- The store samples as the population does, where it answers. -/
structure PointStore.SamplesFrom (store : PointStore σ ρ) (population : Population) : Prop where
  random : ∀ n source state, (store.sample n source state).2.1 = (population.sample n source).2
  points : ∀ n source state points, (store.sample n source state).1.outcome = .ok points →
    points = (population.sample n source).1

namespace PointStore.SamplesFrom

variable {store : PointStore σ ρ} {population : Population} {session after : Session σ ρ}

theorem of_population (population : Population) :
    (population.store : PointStore σ ρ).SamplesFrom population where
  random _ _ _ := rfl
  points _ _ _ _ h := (Except.ok.inj h).symm

theorem timed (h : store.SamplesFrom population) (limit : Option Duration) :
    (store.timed limit).SamplesFrom population where
  random n source state := h.random n source state
  points n source state points hok :=
    h.points n source state points (Reply.outcome_of_guarded hok)

theorem eq_of_drawSample (h : store.SamplesFrom population) {n : Nat} {points : List Point}
    (hanswers : (store.drawSample n).Answers session points after) :
    points = population.pointsAt (drawn population.size n session.random) ∧
      after.random = afterSample population.size n session.random := by
  obtain ⟨hok, rfl⟩ := answers_callRandom_iff.mp hanswers
  exact ⟨h.points _ _ _ _ hok, h.random _ _ _⟩

end PointStore.SamplesFrom

end Samples

/-! ## Rounds -/

namespace RandomSource

variable [RandomSource ρ]

/-- The source after a number for each of some candidates. -/
def afterUnits (candidates : Nat) : ρ → ρ :=
  (fun source => (unit source).2)^[candidates]

/-- The source after a round of a seeding: after a sample, and a number for each of its
points. -/
def afterRound [Sampler ρ] (size pool : Nat) (source : ρ) : ρ :=
  afterUnits (min pool size) (Sampler.afterSample size pool source)

end RandomSource

open RandomSource Sampler

namespace SeedPlan

theorem advances_minDistance (store : PointStore σ ρ) (centroids : List Centroid)
    (position : SparseVector) : Advances id (store.minDistance position centroids) := by
  rw [PointStore.minDistance_eq]
  exact advances_expect _

theorem advances_weigh [RandomSource ρ] (store : PointStore σ ρ) (centroids : List Centroid)
    (point : Point) :
    Advances (fun source => (unit source).2) (weigh store centroids point) :=
  (advances_draw (unit (ρ := ρ))).bind_id fun _ =>
    (advances_minDistance store centroids point.position).bind_id fun _ => advances_pure _

theorem advances_farthest? (store : PointStore σ ρ) (centroids : List Centroid) :
    Advances id (farthest? store centroids) := by
  have hmeasure : ∀ item : Reply Point, Advances id (do
      let point ← check item.outcome
      let distance ← store.minDistance point.position centroids
      return (point, distance) : Procedure σ ρ (Point × Float)) := by
    intro item
    exact (advances_check item.outcome).id_bind fun point =>
      (advances_minDistance store centroids point.position).bind_id fun _ => advances_pure _
  refine (advances_call store.scan).id_bind fun items => ?_
  have hitems := Advances.mapM hmeasure items
  rw [Function.iterate_id] at hitems
  exact hitems.bind_id fun measured => advances_pure _

variable [RandomSource ρ] {plan : SeedPlan} {store : PointStore σ ρ}
  {centroids : List Centroid} {population : Population} {session before after : Session σ ρ}
  {pool : Nat}

theorem Reaches.pool_eq (h : plan.Reaches store session pool centroids before) :
    ∃ draws, coverage plan.k plan.confidence = .ok draws ∧ pool = max draws 1 := by
  induction h with
  | first hcovers hpool _ _ => exact ⟨_, hcovers, hpool⟩
  | next _ _ _ ih => exact ih

variable [Sampler ρ] [LawfulSampler ρ]

theorem advances_next? (h : store.SamplesFrom population) :
    Advances (afterRound population.size pool) (plan.next? store pool centroids) := by
  intro before chosen after hanswers
  obtain ⟨points, sampled, candidates, weighed, hsample, hweigh, hrest⟩ :=
    answers_next?_iff.mp hanswers
  obtain ⟨hpoints, hsampled⟩ := h.eq_of_drawSample hsample
  have hlength : points.length = min pool population.size := by
    rw [hpoints, Population.length_pointsAt fun i hi => drawn_lt hi, length_drawn]
  have hweighed : weighed.random = afterRound population.size pool before.random := by
    have hunits := Advances.mapM (advances_weigh store centroids) points _ _ _ hweigh
    rw [hlength, hsampled] at hunits
    exact hunits
  -- Neither a choice among the candidates nor a scan draws anything.
  rcases hrest with ⟨point, -, -, rfl⟩ | ⟨-, hfarthest⟩
  · exact hweighed
  · calc after.random
        = weighed.random := advances_farthest? store centroids _ _ _ hfarthest
      _ = afterRound population.size pool before.random := hweighed

/-- The source before a round is a matter of how many rounds there were. -/
theorem Reaches.random_eq (h : plan.Reaches store session pool centroids before)
    (hsamples : store.SamplesFrom population) :
    before.random = (afterRound population.size pool)^[centroids.length - 1]
      (afterSample population.size 1 session.random) := by
  induction h with
  | first _ _ _ hsample => exact (hsamples.eq_of_drawSample hsample).2
  | @next centroids point between after hreached _ hanswers ih =>
      have hlength := hreached.length_bounds.1
      have hrounds : (centroids ++ [(⟨centroids.length + 1, point.position⟩ : Centroid)]).length -
          1 = (centroids.length - 1) + 1 := by
        rw [List.length_append, List.length_singleton]
        omega
      calc after.random
          = afterRound population.size pool between.random :=
            advances_next? hsamples _ _ _ hanswers
        _ = _ := by rw [ih, hrounds, Function.iterate_succ_apply']

/-- The number of rounds after the first sample, whether or not the last one found a
centroid. -/
def roundsOf (k achieved : Nat) : Nat :=
  min achieved (k - 1)

theorem random_eq_of_seed {seeding : Seeding} (hsamples : store.SamplesFrom population)
    (h : (plan.seed store).Answers session seeding after) :
    ∃ draws, coverage plan.k plan.confidence = .ok draws ∧
      after.random = (afterRound population.size (max draws 1))^[roundsOf plan.k seeding.achieved]
        (afterSample population.size 1 session.random) := by
  obtain ⟨-, pool, between, hreaches, hends⟩ := answers_seed_iff.mp h
  obtain ⟨draws, hcovers, rfl⟩ := hreaches.pool_eq
  have hlength : 1 ≤ seeding.achieved := hreaches.length_bounds.1
  have hbetween : between.random = (afterRound population.size (max draws 1))^[seeding.achieved - 1]
      (afterSample population.size 1 session.random) := hreaches.random_eq hsamples
  refine ⟨draws, hcovers, ?_⟩
  cases hends with
  | complete hall =>
      have hrounds : roundsOf plan.k seeding.achieved = seeding.achieved - 1 := by
        have hachieved : seeding.achieved = plan.k := hall
        rw [roundsOf]
        omega
      rw [hrounds, hbetween]
  | @short failed _ hmissing hanswers hreports =>
      have hrounds : roundsOf plan.k seeding.achieved = (seeding.achieved - 1) + 1 := by
        have hachieved : seeding.achieved < plan.k := hmissing
        rw [roundsOf]
        omega
      calc after.random
          = failed.random := advances_report _ _ _ _ hreports
        _ = afterRound population.size (max draws 1) between.random :=
          advances_next? hsamples _ _ _ hanswers
        _ = _ := by rw [hbetween, hrounds, Function.iterate_succ_apply']

end SeedPlan

end SampledKmeans
