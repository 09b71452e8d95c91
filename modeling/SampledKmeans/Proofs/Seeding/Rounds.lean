import SampledKmeans.Proofs.Seeding

/-!
# The rounds of a seeding

After its first centroid a seeding goes in rounds, each of which adds a centroid
or ends it.  `SeedPlan.Reaches` follows the rounds from one session to the next,
and `SeedPlan.EndsIn` says how the last one comes about: all centroids are there,
or a round finds none.  A seeding answers exactly what it reaches so
(`SeedPlan.answers_seed_iff`), which leaves one round to be studied
(`SeedPlan.answers_next?_iff`).
-/

namespace SampledKmeans.SeedPlan

open Procedure

variable {σ ρ : Type} [RandomSource ρ]

/-- The states in which the rounds of a seeding begin: the centroids chosen so
far, and the session at that moment.  In each round `pool` candidates are drawn. -/
inductive Reaches (plan : SeedPlan) (store : PointStore σ ρ) (session : Session σ ρ) (pool : Nat) :
    List Centroid → Session σ ρ → Prop where
  | first {draws : Nat} {point : Point} {rest : List Point} {after : Session σ ρ}
      (covers : coverage plan.k plan.confidence = .ok draws) (pool_eq : pool = max draws 1)
      (room : plan.k ≤ maxRows)
      (samples : (store.drawSample 1).Answers session (point :: rest) after) :
      Reaches plan store session pool [⟨1, point.position⟩] after
  | next {centroids : List Centroid} {point : Point} {before after : Session σ ρ}
      (reached : Reaches plan store session pool centroids before)
      (goesOn : centroids.length < plan.k)
      (answers : (plan.next? store pool centroids).Answers before (some point) after) :
      Reaches plan store session pool (centroids ++ [⟨centroids.length + 1, point.position⟩]) after

/-- From `before` on, seeding ends with the given centroids. -/
inductive EndsIn (plan : SeedPlan) (store : PointStore σ ρ) (pool : Nat)
    (centroids : List Centroid) (before : Session σ ρ) : Session σ ρ → Prop where
  /-- No centroid is missing. -/
  | complete (all : centroids.length = plan.k) : EndsIn plan store pool centroids before before
  /-- A round finds no further centroid. -/
  | short {between after : Session σ ρ} (missing : centroids.length < plan.k)
      (answers : (plan.next? store pool centroids).Answers before none between)
      (reports : (report (.seedingShortfall plan.k centroids.length)).Answers between () after) :
      EndsIn plan store pool centroids before after

variable {plan : SeedPlan} {store : PointStore σ ρ} {session before after : Session σ ρ}
  {pool : Nat} {centroids result : List Centroid}

theorem k_pos_of_coverage {draws : Nat} (h : coverage plan.k plan.confidence = .ok draws) :
    0 < plan.k := by
  refine Nat.pos_of_ne_zero fun hzero => ?_
  rw [coverage, if_pos hzero] at h
  cases h

theorem Reaches.length_bounds (h : plan.Reaches store session pool centroids before) :
    1 ≤ centroids.length ∧ centroids.length ≤ plan.k := by
  cases h with
  | first hcovers _ _ _ => exact ⟨Nat.le_refl 1, k_pos_of_coverage hcovers⟩
  | next _ hgoesOn _ =>
      rw [List.length_append, List.length_singleton]
      exact ⟨Nat.succ_le_succ (Nat.zero_le _), hgoesOn⟩

/-! ## Growing in rounds -/

/-- What `grow` adds are rounds. -/
theorem Reaches.exists_of_grow {remaining : Nat}
    (h : plan.Reaches store session pool centroids before)
    (hremaining : centroids.length + remaining = plan.k)
    (hgrow : (plan.grow store pool remaining centroids).Answers before result after) :
    ∃ between, plan.Reaches store session pool result between ∧
      plan.EndsIn store pool result between after := by
  induction remaining generalizing centroids before with
  | zero =>
      rw [grow, answers_pure_iff] at hgrow
      obtain ⟨rfl, rfl⟩ := hgrow
      exact ⟨_, h, .complete hremaining⟩
  | succ remaining ih =>
      have hmissing : centroids.length < plan.k := by omega
      rw [grow, answers_bind_iff] at hgrow
      obtain ⟨chosen, between, hnext, hrest⟩ := hgrow
      cases chosen with
      | some point =>
          refine ih (h.next hmissing hnext) ?_ hrest
          rw [List.length_append, List.length_singleton]
          omega
      | none =>
          obtain ⟨_, _, hreport, hpure⟩ := answers_bind_iff.mp hrest
          obtain ⟨rfl, rfl⟩ := answers_pure_iff.mp hpure
          exact ⟨_, h, .short hmissing hnext hreport⟩

/-- A seeding goes on as it would grow from any state that it reaches. -/
theorem Reaches.answers_seed_of_grow (h : plan.Reaches store session pool centroids before)
    (hgrow : (plan.grow store pool (plan.k - centroids.length) centroids).Answers before result
      after) : (plan.seed store).Answers session ⟨plan.k, result⟩ after := by
  induction h with
  | first hcovers hpool hroom hsamples =>
      subst hpool
      have hreserve : (reserve plan.k : Procedure σ ρ Unit) = pure () := if_pos hroom
      rw [seed, hcovers, answers_bind_iff]
      refine ⟨_, session, answers_check_iff.mpr ⟨rfl, rfl⟩,
        answers_bind_iff.mpr ⟨_, _, hsamples, ?_⟩⟩
      rw [hreserve]
      exact answers_bind_iff.mpr ⟨(), _, answers_pure_iff.mpr ⟨rfl, rfl⟩,
        answers_bind_iff.mpr ⟨result, after, hgrow, answers_pure_iff.mpr ⟨rfl, rfl⟩⟩⟩
  | @next centroids point _ _ hreached hgoesOn hanswers ih =>
      refine ih ?_
      obtain ⟨remaining, hremaining⟩ := Nat.exists_eq_succ_of_ne_zero
        (Nat.sub_ne_zero_of_lt hgoesOn)
      rw [List.length_append, List.length_singleton, Nat.sub_add_eq, hremaining,
        Nat.succ_sub_one] at hgrow
      rw [hremaining, grow]
      exact answers_bind_iff.mpr ⟨some point, _, hanswers, hgrow⟩

theorem EndsIn.answers_grow (h : plan.EndsIn store pool centroids before after) :
    (plan.grow store pool (plan.k - centroids.length) centroids).Answers before centroids
      after := by
  cases h with
  | complete hall =>
      rw [hall, Nat.sub_self, grow]
      exact answers_pure_iff.mpr ⟨rfl, rfl⟩
  | short hmissing hanswers hreports =>
      obtain ⟨remaining, hremaining⟩ := Nat.exists_eq_succ_of_ne_zero
        (Nat.sub_ne_zero_of_lt hmissing)
      rw [hremaining, grow]
      exact answers_bind_iff.mpr ⟨none, _, hanswers, answers_bind_iff.mpr ⟨(), _, hreports,
        answers_pure_iff.mpr ⟨rfl, rfl⟩⟩⟩

/-- A seeding answers the centroids with which its rounds end. -/
theorem answers_seed_iff {seeding : Seeding} :
    (plan.seed store).Answers session seeding after ↔
      seeding.requested = plan.k ∧ ∃ pool between,
        plan.Reaches store session pool seeding.centroids between ∧
          plan.EndsIn store pool seeding.centroids between after := by
  constructor
  · intro h
    obtain ⟨draws, _, hcheck, hrest⟩ := answers_bind_iff.mp h
    obtain ⟨hcovers, rfl⟩ := answers_check_iff.mp hcheck
    obtain ⟨sampled, _, hsamples, hchoice⟩ := answers_bind_iff.mp hrest
    cases sampled with
    | nil => exact absurd hchoice not_answers_fail
    | cons point rest =>
        obtain ⟨_, _, hreserve, hgrows⟩ := answers_bind_iff.mp hchoice
        obtain ⟨hroom, rfl⟩ := answers_reserve_iff.mp hreserve
        obtain ⟨result, _, hgrow, hpure⟩ := answers_bind_iff.mp hgrows
        obtain ⟨rfl, rfl⟩ := answers_pure_iff.mp hpure
        have hpos := k_pos_of_coverage hcovers
        have hfirst := Reaches.first hcovers rfl hroom hsamples
        refine ⟨rfl, _, hfirst.exists_of_grow ?_ hgrow⟩
        rw [List.length_singleton]
        omega
  · obtain ⟨requested, centroids⟩ := seeding
    rintro ⟨rfl, pool, between, hreaches, hends⟩
    exact hreaches.answers_seed_of_grow hends.answers_grow

/-! ## A single round -/

/-- A round draws its candidates and measures them.  It takes one of them or, if all
coincide with centroids, the farthest point of a scan. -/
theorem answers_next?_iff {chosen : Option Point} :
    (plan.next? store pool centroids).Answers before chosen after ↔
      ∃ points sampled candidates weighed,
        (store.drawSample pool).Answers before points sampled ∧
        (points.mapM (weigh store centroids)).Answers sampled candidates weighed ∧
        ((∃ point, pickWeighted? plan.exponent candidates = some point ∧
            chosen = some point ∧ after = weighed) ∨
          pickWeighted? plan.exponent candidates = none ∧
            (farthest? store centroids).Answers weighed chosen after) := by
  rw [next?_eq, answers_bind_iff]
  simp only [answers_bind_iff]
  constructor
  · rintro ⟨points, sampled, hsamples, candidates, weighed, hweighs, hrest⟩
    refine ⟨points, sampled, candidates, weighed, hsamples, hweighs, ?_⟩
    cases hpicked : pickWeighted? plan.exponent candidates with
    | some point =>
        rw [hpicked] at hrest
        exact .inl ⟨point, rfl, answers_pure_iff.mp hrest⟩
    | none =>
        rw [hpicked] at hrest
        exact .inr ⟨rfl, hrest⟩
  · rintro ⟨points, sampled, candidates, weighed, hsamples, hweighs, hrest⟩
    refine ⟨points, sampled, hsamples, candidates, weighed, hweighs, ?_⟩
    rcases hrest with ⟨point, hpicked, rfl, rfl⟩ | ⟨hpicked, hfarthest⟩
    · rw [hpicked]
      exact answers_pure_iff.mpr ⟨rfl, rfl⟩
    · rw [hpicked]
      exact hfarthest

end SampledKmeans.SeedPlan
