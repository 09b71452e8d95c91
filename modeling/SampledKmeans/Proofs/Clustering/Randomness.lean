import SampledKmeans.Proofs.Clustering.Faults
import SampledKmeans.Proofs.Seeding.InMemory
import SampledKmeans.Proofs.Seeding.Randomness
import SampledKmeans.Random.ChaCha

/-!
# What clusterings draw does not depend on the data

Two populations of one size may hold any points: as long as two seedings start from
one random source and go through the same number of rounds, they draw the same
positions and leave one source behind.  A clustering that refines a sample draws it
right after seeding, so that two such clusterings refine the points at the same
positions, in the same order (`Clustering.draws_agree`).
-/

namespace SampledKmeans

open Procedure RandomSource Sampler

namespace Clustering

variable {σ ρ : Type} {clustering : Clustering σ} {store : PointStore σ ρ}

theorem advances_validate : Advances id (clustering.validate store) := by
  rw [validate_eq]
  exact (advances_check clustering.checkRequest).id_bind fun _ =>
    (advances_call store.count).id_bind fun population =>
      advances_check (clustering.checkPopulation population)

theorem advances_accept (seeding : Seeding) :
    Advances id (clustering.accept seeding : Procedure σ ρ Unit) := by
  unfold accept
  split_ifs
  · exact (advances_check seeding.ensureComplete).id_bind fun _ => advances_report _
  · exact advances_report _
  · exact advances_pure ()

variable [Sampler ρ] {population : Population} {session after : Session σ ρ}

/-- A sample to refine is drawn from the source at hand. -/
theorem working_eq_of_sampled (hsamples : store.SamplesFrom population) {n : Nat}
    {working : List Point}
    (h : (clustering.workingSet store n).Answers session (working, true) after) :
    ∃ size, clustering.sampleSize = .ok size ∧
      working = population.pointsAt (drawn population.size size session.random) := by
  obtain ⟨size, checked, hcheck, hloads⟩ := answers_bind_iff.mp h
  obtain ⟨hsize, hchecked⟩ := answers_check_iff.mp hcheck
  refine ⟨size, hsize, ?_⟩
  split_ifs at hloads
  · obtain ⟨_, reported, hreport, hrest⟩ := answers_bind_iff.mp hloads
    obtain ⟨points, _, hsample, hpure⟩ := answers_bind_iff.mp hrest
    obtain ⟨heq, -⟩ := answers_pure_iff.mp hpure
    obtain ⟨hpoints, -⟩ := hsamples.eq_of_drawSample hsample
    have hrandom : reported.random = session.random := by
      rw [advances_report _ _ _ _ hreport, hchecked]
      rfl
    rw [(Prod.mk.inj heq).1, hpoints, hrandom]
  · obtain ⟨_, _, -, hrest⟩ := answers_bind_iff.mp hloads
    obtain ⟨_, _, -, hpure⟩ := answers_bind_iff.mp hrest
    cases (answers_pure_iff.mp hpure).1

variable [RandomSource ρ]

/-- The source after the seeding of a clustering. -/
def afterSeeding (clustering : Clustering σ) (size draws achieved : Nat) (source : ρ) : ρ :=
  (afterRound size (max draws 1))^[SeedPlan.roundsOf clustering.k achieved]
    (afterSample size 1 source)

theorem working_eq_of_prepare [LawfulSampler ρ] (hsamples : store.SamplesFrom population)
    {prepared : Prepared}
    (h : (clustering.prepare store).Answers session prepared after)
    (hsampled : prepared.sampled = true) :
    ∃ draws size, coverage clustering.k clustering.settings.confidence = .ok draws ∧
      clustering.sampleSize = .ok size ∧
      prepared.working = population.pointsAt (drawn population.size size
        (clustering.afterSeeding population.size draws prepared.seeding.achieved
          session.random)) := by
  obtain ⟨n, validated, hvalidates, hrest⟩ := answers_bind_iff.mp h
  obtain ⟨seeding, seeded, hseeds, hrest⟩ := answers_bind_iff.mp hrest
  obtain ⟨_, accepted, haccepts, hrest⟩ := answers_bind_iff.mp hrest
  obtain ⟨⟨working, sampled⟩, loaded, hloads, hpure⟩ := answers_bind_iff.mp hrest
  obtain ⟨rfl, -⟩ := answers_pure_iff.mp hpure
  obtain rfl : sampled = true := hsampled
  obtain ⟨_, reported, hreports, hseed⟩ := answers_bind_iff.mp hseeds
  obtain ⟨draws, hcovers, hrandom⟩ := SeedPlan.random_eq_of_seed hsamples hseed
  obtain ⟨size, hsize, hworking⟩ := working_eq_of_sampled hsamples hloads
  have hreported : reported.random = session.random :=
    calc reported.random
        = validated.random := advances_report _ _ _ _ hreports
      _ = session.random := advances_validate _ _ _ hvalidates
  have haccepted : accepted.random =
      clustering.afterSeeding population.size draws seeding.achieved session.random := by
    calc accepted.random
        = seeded.random := advances_accept seeding _ _ _ haccepts
      _ = _ := by rw [hrandom, hreported]; rfl
  exact ⟨draws, size, hcovers, hsize, by rw [hworking, haccepted]⟩

end Clustering

/-! ## Two runs -/

section TwoRuns

variable {σ σ' ρ : Type} [Sampler ρ] {first second : Population} {session : Session σ ρ}
  {session' : Session σ' ρ}

/-- Samples from two populations are the points at the same positions. -/
def Population.SampleAlike (first second : Population) (n : Nat) (session : Session σ ρ)
    (session' : Session σ' ρ) : Prop :=
  ∃ positions, (∀ i ∈ positions, i < first.size) ∧
    (first.store.drawSample n).outcome session = .ok (first.pointsAt positions) ∧
    (second.store.drawSample n).outcome session' = .ok (second.pointsAt positions)

theorem Population.outcome_drawSample (population : Population) (n : Nat)
    (session : Session σ ρ) :
    (population.store.drawSample n).outcome session =
      .ok (population.pointsAt (drawn population.size n session.random)) := by
  rw [PointStore.drawSample, outcome, runIn_callRandom]
  rfl

theorem Population.sampleAlike [LawfulSampler ρ] (hsize : first.size = second.size)
    (hrandom : session.random = session'.random) (n : Nat) :
    first.SampleAlike second n session session' := by
  refine ⟨drawn first.size n session.random, fun i hi => drawn_lt hi,
    first.outcome_drawSample n session, ?_⟩
  rw [outcome_drawSample, hsize, hrandom]

variable [RandomSource ρ] [LawfulSampler ρ]

section Seedings

variable {plan plan' : SeedPlan} {pool pool' : Nat} {centroids centroids' : List Centroid}
  {before after : Session σ ρ} {before' after' : Session σ' ρ}

/-- Two seedings that have gone through equally many rounds go on alike. -/
theorem SeedPlan.rounds_agree (hsize : first.size = second.size)
    (hrandom : session.random = session'.random) (hk : plan.k = plan'.k)
    (hconfidence : plan.confidence = plan'.confidence)
    (hreaches : plan.Reaches first.store session pool centroids before)
    (hreaches' : plan'.Reaches second.store session' pool' centroids' before')
    (hlength : centroids.length = centroids'.length) :
    pool = pool' ∧ before.random = before'.random := by
  obtain ⟨draws, hcovers, rfl⟩ := hreaches.pool_eq
  obtain ⟨draws', hcovers', rfl⟩ := hreaches'.pool_eq
  rw [← hk, ← hconfidence] at hcovers'
  obtain rfl := Except.ok.inj (hcovers.symm.trans hcovers')
  refine ⟨rfl, ?_⟩
  rw [hreaches.random_eq (.of_population first), hreaches'.random_eq (.of_population second),
    hsize, hlength, hrandom]

theorem SeedPlan.seeds_agree (hsize : first.size = second.size)
    (hrandom : session.random = session'.random) (hk : plan.k = plan'.k)
    (hconfidence : plan.confidence = plan'.confidence) {seeding seeding' : Seeding}
    (hseed : (plan.seed first.store).Answers session seeding after)
    (hseed' : (plan'.seed second.store).Answers session' seeding' after')
    (hachieved : seeding.achieved = seeding'.achieved) : after.random = after'.random := by
  obtain ⟨draws, hcovers, hafter⟩ := random_eq_of_seed (.of_population first) hseed
  obtain ⟨draws', hcovers', hafter'⟩ := random_eq_of_seed (.of_population second) hseed'
  rw [← hk, ← hconfidence] at hcovers'
  obtain rfl := Except.ok.inj (hcovers.symm.trans hcovers')
  rw [hafter, hafter', hsize, hachieved, hk, hrandom]

end Seedings

namespace Clustering

/-- Two clusterings whose samples have one size. -/
structure Alike (clustering : Clustering σ) (clustering' : Clustering σ') : Prop where
  k : clustering.k = clustering'.k
  confidence : clustering.settings.confidence = clustering'.settings.confidence
  perCluster : clustering.settings.perCluster = clustering'.settings.perCluster
  maxSample : clustering.settings.maxSample = clustering'.settings.maxSample

variable {clustering : Clustering σ} {clustering' : Clustering σ'} {prepared prepared' : Prepared}
  {after : Session σ ρ} {after' : Session σ' ρ}

theorem Alike.sampleSize_eq (h : clustering.Alike clustering') :
    clustering.sampleSize = clustering'.sampleSize := by
  rw [sampleSize, sampleSize, h.k, h.confidence, h.perCluster, h.maxSample]

theorem Alike.working_agree (halike : clustering.Alike clustering')
    (hsize : first.size = second.size) (hrandom : session.random = session'.random)
    (hprepare : (clustering.prepare (first.store.timed clustering.settings.timeout)).Answers session
      prepared after)
    (hprepare' : (clustering'.prepare (second.store.timed clustering'.settings.timeout)).Answers
      session' prepared' after')
    (hachieved : prepared.seeding.achieved = prepared'.seeding.achieved)
    (hsampled : prepared.sampled = true) (hsampled' : prepared'.sampled = true) :
    ∃ positions, (∀ i ∈ positions, i < first.size) ∧
      prepared.working = first.pointsAt positions ∧
      prepared'.working = second.pointsAt positions := by
  obtain ⟨draws, size, hcovers, hsampleSize, hworking⟩ :=
    working_eq_of_prepare ((PointStore.SamplesFrom.of_population first).timed _) hprepare hsampled
  obtain ⟨draws', size', hcovers', hsampleSize', hworking'⟩ :=
    working_eq_of_prepare ((PointStore.SamplesFrom.of_population second).timed _) hprepare'
      hsampled'
  rw [← halike.k, ← halike.confidence] at hcovers'
  rw [← halike.sampleSize_eq] at hsampleSize'
  obtain rfl := Except.ok.inj (hcovers.symm.trans hcovers')
  obtain rfl := Except.ok.inj (hsampleSize.symm.trans hsampleSize')
  refine ⟨_, fun i hi => drawn_lt hi, hworking, ?_⟩
  rw [hworking', afterSeeding, afterSeeding, hsize, hachieved, halike.k, hrandom]

end Clustering

/-- Two populations of one size, and two sessions with one random source.

Seedings of as many centroids with one confidence, whatever their exponents, draw their
first point at one position; in every round that both reach they draw candidates at the
same positions and leave one source behind, and so they do in the end if they find
equally many centroids.

Clusterings with one sample size that seed equally many centroids and both refine a
sample, refine the points at the same positions, in the same order. -/
theorem Clustering.draws_agree (hsize : first.size = second.size)
    (hrandom : session.random = session'.random) :
    (∀ plan plan' : SeedPlan, plan.k = plan'.k → plan.confidence = plan'.confidence →
      first.SampleAlike second 1 session session' ∧
      (∀ pool centroids before pool' centroids' before',
        plan.Reaches first.store session pool centroids before →
        plan'.Reaches second.store session' pool' centroids' before' →
        centroids.length = centroids'.length →
          pool = pool' ∧ before.random = before'.random ∧
          first.SampleAlike second pool before before' ∧
          ∀ chosen after chosen' after',
            (plan.next? first.store pool centroids).Answers before chosen after →
            (plan'.next? second.store pool' centroids').Answers before' chosen' after' →
              after.random = after'.random) ∧
      ∀ seeding after seeding' after',
        (plan.seed first.store).Answers session seeding after →
        (plan'.seed second.store).Answers session' seeding' after' →
        seeding.achieved = seeding'.achieved → after.random = after'.random) ∧
    ∀ (clustering : Clustering σ) (clustering' : Clustering σ'), clustering.Alike clustering' →
      ∀ prepared after prepared' after',
        (clustering.prepare (first.store.timed clustering.settings.timeout)).Answers session
          prepared after →
        (clustering'.prepare (second.store.timed clustering'.settings.timeout)).Answers session'
          prepared' after' →
        prepared.seeding.achieved = prepared'.seeding.achieved →
        prepared.sampled = true → prepared'.sampled = true →
          ∃ positions, (∀ i ∈ positions, i < first.size) ∧
            prepared.working = first.pointsAt positions ∧
            prepared'.working = second.pointsAt positions := by
  constructor
  · intro plan plan' hk hconfidence
    refine ⟨Population.sampleAlike hsize hrandom 1, ?_, ?_⟩
    · intro pool centroids before pool' centroids' before' hreaches hreaches' hlength
      obtain ⟨rfl, hbefore⟩ :=
        SeedPlan.rounds_agree hsize hrandom hk hconfidence hreaches hreaches' hlength
      refine ⟨rfl, hbefore, Population.sampleAlike hsize hbefore pool, ?_⟩
      intro chosen after chosen' after' hnext hnext'
      rw [SeedPlan.advances_next? (.of_population first) _ _ _ hnext,
        SeedPlan.advances_next? (.of_population second) _ _ _ hnext', hsize, hbefore]
    · intro seeding after seeding' after' hseed hseed' hachieved
      exact SeedPlan.seeds_agree hsize hrandom hk hconfidence hseed hseed' hachieved
  · intro clustering clustering' halike prepared after prepared' after' hprepare hprepare'
      hachieved hsampled hsampled'
    exact halike.working_agree hsize hrandom hprepare hprepare' hachieved hsampled hsampled'

end TwoRuns

/-- Two seedings of two centroids, among three different positions and among two, and two
clusterings that refine the second point. -/
theorem Clustering.draws_agree_onLine :
    let first : Population := ⟨(pointsOnLine [1.0, 2.0, 6.0]).toArray, by decide, by decide⟩
    let second : Population := ⟨(pointsOnLine [8.0, 3.0, 3.0]).toArray, by decide, by decide⟩
    let session : Session Unit ChaCha := { store := (), random := ChaCha.ofSeed 5 }
    let plan : SeedPlan := { k := 2 }
    let plan' : SeedPlan := { k := 2, exponent := 1.0 }
    let clustering : Clustering Unit := { k := 1, settings := { maxSample := 1 } }
    let clustering' : Clustering Unit :=
      { k := 1, settings := { maxSample := 1, exponent := 1.0 }, withFit := false }
    first.size = second.size ∧
      (∃ seeding after seeding' after',
        (plan.seed first.store).Answers session seeding after ∧
        (plan'.seed second.store).Answers session seeding' after' ∧
        seeding.achieved = 2 ∧ seeding'.achieved = 2 ∧ after.random = after'.random) ∧
      ∃ prepared after prepared' after' positions,
        (clustering.prepare (first.store.timed none)).Answers session prepared after ∧
        (clustering'.prepare (second.store.timed none)).Answers session prepared' after' ∧
        prepared.sampled = true ∧ prepared'.sampled = true ∧
        prepared.working = [⟨2, .onLine 2.0⟩] ∧ prepared'.working = [⟨2, .onLine 3.0⟩] ∧
        prepared.working = first.pointsAt positions ∧
        prepared'.working = second.pointsAt positions := by
  intro first second session plan plan' clustering clustering'
  have hsize : first.size = second.size := by decide
  have hrandom : session.random = session.random := rfl
  obtain ⟨hplans, hclusterings⟩ := draws_agree hsize hrandom
  refine ⟨hsize, ?_, ?_⟩
  · have hroom : plan.k ≤ maxRows := by decide
    have hconfidence : 0.0 < plan.confidence ∧ plan.confidence < 1.0 := by decide +kernel
    have hvalid : ∀ v ∈ first.positions, v.Valid :=
      Population.valid_onLine (show _ = pointsOnLine [1.0, 2.0, 6.0] from rfl) (by decide +kernel)
    have hvalid' : ∀ v ∈ second.positions, v.Valid :=
      Population.valid_onLine (show _ = pointsOnLine [8.0, 3.0, 3.0] from rfl) (by decide +kernel)
    have hapart : ∀ u ∈ first.positions, ∀ v ∈ first.positions, u ≠ v →
        u.squareAt v 0 ≠ 0.0 := by
      decide +kernel
    have hapart' : ∀ u ∈ second.positions, ∀ v ∈ second.positions, u ≠ v →
        u.squareAt v 0 ≠ 0.0 := by
      decide +kernel
    obtain ⟨seeding, after, hseed, hmin⟩ := Population.exists_seeding_of_apart plan session hvalid
      (by decide) (by decide) hroom hconfidence fun u hu v hv hne => ⟨0, hapart u hu v hv hne⟩
    obtain ⟨seeding', after', hseed', hmin'⟩ := Population.exists_seeding_of_apart plan' session
      hvalid' (by decide) (by decide) hroom hconfidence
      fun u hu v hv hne => ⟨0, hapart' u hu v hv hne⟩
    have hachieved : seeding.achieved = 2 := hmin.trans (by decide +kernel)
    have hachieved' : seeding'.achieved = 2 := hmin'.trans (by decide +kernel)
    obtain ⟨-, -, hseeds⟩ := hplans plan plan' rfl rfl
    exact ⟨seeding, after, seeding', after', hseed, hseed', hachieved, hachieved',
      hseeds _ _ _ _ hseed hseed' (hachieved.trans hachieved'.symm)⟩
  · -- The number of draws does not matter, since the largest sample is one point.
    have hdrawn : clustering.sampleSize = .ok 1 :=
      sampleSize_of_maxSample_le (by decide +kernel) (by decide) (by decide)
    have hdrawn' : clustering'.sampleSize = .ok 1 :=
      sampleSize_of_maxSample_le (by decide +kernel) (by decide) (by decide)
    have hprepare : (clustering.prepare (first.store.timed none)).outcome session =
        .ok ⟨3, ⟨1, centroidsOnLine [1.0]⟩, [⟨2, .onLine 2.0⟩], true⟩ := by
      unfold prepare workingSet
      rw [hdrawn]
      decide +kernel
    have hprepare' : (clustering'.prepare (second.store.timed none)).outcome session =
        .ok ⟨3, ⟨1, centroidsOnLine [8.0]⟩, [⟨2, .onLine 3.0⟩], true⟩ := by
      unfold prepare workingSet
      rw [hdrawn']
      decide +kernel
    obtain ⟨after, hanswers⟩ := outcome_eq_ok_iff.mp hprepare
    obtain ⟨after', hanswers'⟩ := outcome_eq_ok_iff.mp hprepare'
    obtain ⟨positions, -, hworking, hworking'⟩ := hclusterings clustering clustering'
      ⟨rfl, rfl, rfl, rfl⟩ _ _ _ _ hanswers hanswers' (by decide) rfl rfl
    exact ⟨_, _, _, _, positions, hanswers, hanswers', rfl, rfl, rfl, rfl, hworking, hworking'⟩

end SampledKmeans
