import SampledKmeans.Proofs.Refinement.Replay

/-!
# Shorter runs

A refinement contains every shorter one.  Capped at fewer iterations, and asked
by nobody to stop, it passes through the same states in any session and stops
at the cap; capped at all of its iterations it gives the same answer, and the
same reason if the measurements were the reason.
-/

namespace SampledKmeans.Limits

open Procedure

variable {σ ρ : Type} {store : PointStore σ ρ} {limits : Limits} {stop : StopSignal σ}
  {working : List Point} {seeds : List Centroid} {session after : Session σ ρ}
  {progress : Progress} {mean : List SparseVector → Except Error SparseVector}

/-- What a run that is capped at `n` iterations answers, from what the whole run
answers. -/
structure IsPrefix (n : Nat) (whole capped : Refinement) : Prop where
  iterations_eq : capped.iterations = n
  changeTrace_eq : capped.changeTrace = whole.changeTrace.take (n - 1)
  reason_of_lt : n < whole.iterations → capped.reason = .iterationLimit n
  /-- The cap is the reason unless the measurements were. -/
  same_of_eq : n = whole.iterations →
    capped.centroids = whole.centroids ∧ capped.labels = whole.labels ∧
      capped.dead = whole.dead ∧
      capped.reason = if whole.reason.isConverged then whole.reason else .iterationLimit n

/-- A run that the caller stops has completed an iteration, and was allowed
another one. -/
theorem iterations_bounds_of_cancelled
    (h : limits.ending? stop progress session = some .cancelled) :
    0 < progress.iterations ∧ progress.iterations < limits.maxIterations := by
  rcases ending?_eq_some_iff.mp h with hrule | ⟨hrule, hpos, -, -⟩
  · rcases rule?_eq_some_iff.mp hrule with hconvergence | ⟨-, -, heq⟩
    · exact absurd (isConverged_of_convergence? hconvergence) (by decide)
    · cases heq
  · exact ⟨hpos, (rule?_eq_none_iff.mp hrule).2⟩

/-- Capped where it ended, a run answers the same. -/
theorem Reaches.isPrefix_of_ending?
    (h : limits.Reaches store stop working seeds session progress after)
    (hadmits : limits.Admits working seeds) {reason : StopReason}
    (hending : limits.ending? stop progress after = some reason) :
    IsPrefix progress.iterations (progress.finish reason)
      (progress.finish
        ((limits.convergence? progress).getD (.iterationLimit progress.iterations))) where
  iterations_eq := rfl
  changeTrace_eq := (h.sound_of_admits hadmits).changeTrace_eq_take (List.prefix_refl _)
  reason_of_lt hlt := absurd hlt (Nat.lt_irrefl _)
  same_of_eq _ := by
    refine ⟨rfl, rfl, rfl, ?_⟩
    rw [convergence?_eq_of_ending? hending]
    change _ = if reason.isConverged then reason else _
    cases reason.isConverged <;> rfl

/-- Capped before it ended, a run answers the state that it had reached by
then. -/
theorem Reaches.isPrefix_of_lt {earlier : Progress} {between : Session σ ρ}
    (h : limits.Reaches store stop working seeds session earlier between)
    (hadmits : limits.Admits working seeds)
    (hgoesOn : limits.ending? stop earlier between = none)
    (hextends : earlier.changeTrace <+: progress.changeTrace)
    (hlt : earlier.iterations < progress.iterations) (reason : StopReason) :
    IsPrefix earlier.iterations (progress.finish reason)
      (earlier.finish
        ((limits.convergence? earlier).getD (.iterationLimit earlier.iterations))) where
  iterations_eq := rfl
  changeTrace_eq := (h.sound_of_admits hadmits).changeTrace_eq_take hextends
  reason_of_lt _ := by
    -- The measurements did not end the run here, or it would not have gone on.
    have hconvergence := (rule?_eq_none_iff.mp (ending?_eq_none_iff.mp hgoesOn).1).1
    rw [hconvergence]
    rfl
  same_of_eq heq := absurd heq (Nat.ne_of_lt hlt)

/-- When a refinement succeeds, so does the one that is capped at any number of
its iterations and that nobody asks to stop, in any session, and it answers the
part of the run up to the cap.  A cancelled refinement has completed an
iteration and fewer than it was allowed. -/
theorem refine_isPrefix (hmean : store.HasMean mean) {result : Refinement}
    (h : (limits.refine store stop working seeds).outcome session = .ok result) :
    (∀ n, 1 ≤ n → n ≤ result.iterations → ∀ other : Session σ ρ, ∃ capped,
      ((limits.cappedAt n).refine store .never working seeds).outcome other = .ok capped ∧
        IsPrefix n result capped) ∧
    (result.reason = .cancelled →
      1 ≤ result.iterations ∧ result.iterations < limits.maxIterations) := by
  have hadmits := admits_of_outcome_refine h
  obtain ⟨last, after, reason, hlast, hending, rfl⟩ := (outcome_refine_eq_ok_iff hadmits).mp h
  refine ⟨fun n hpos hle other => ?_, ?_⟩
  · rcases Nat.lt_or_eq_of_le hle with hlt | rfl
    · obtain ⟨earlier, between, hearlier, rfl, hgoesOn, hextends⟩ := hlast.exists_earlier hlt
      exact ⟨_, hearlier.outcome_refine_replay hadmits hpos hmean other,
        hearlier.isPrefix_of_lt hadmits hgoesOn hextends hlt reason⟩
    · exact ⟨_, hlast.outcome_refine_replay hadmits hpos hmean other,
        hlast.isPrefix_of_ending? hadmits hending⟩
  · rintro rfl
    exact iterations_bounds_of_cancelled hending

/-- A run that is stopped after its third iteration contains the run of two. -/
theorem refine_isPrefix_onLine :
    let store : PointStore Unit SplitMix := Population.empty.store
    let session : Session Unit SplitMix := { store := (), random := {} }
    let stop : StopSignal Unit := fun iterations _ => decide (3 ≤ iterations)
    let working := pointsOnLine [1.0, 2.0, 3.0, 8.0]
    let seeds := centroidsOnLine [1.0, 2.0, 50.0]
    store.HasMean meanOf ∧ ∃ result capped,
      (({} : Limits).refine store stop working seeds).outcome session = .ok result ∧
        result.reason = .cancelled ∧ result.iterations = 3 ∧ result.iterations < 20 ∧
        ((({} : Limits).cappedAt 2).refine store .never working seeds).outcome session =
          .ok capped ∧
        capped.changeTrace = [0.5] ∧ capped.reason = .iterationLimit 2 := by
  intro store session stop working seeds
  have hmean : store.HasMean meanOf := fun _ _ => rfl
  have hok : (({} : Limits).refine store stop working seeds).outcome session = .ok {
      centroids := centroidsOnLine [2.0, 8.0, 50.0], labels := [1, 1, 1, 2], iterations := 3,
      reason := .cancelled, changeTrace := [0.5, 0.5], dead := [3] } := by
    decide +kernel
  obtain ⟨hcapped, hcancelled⟩ := refine_isPrefix hmean hok
  obtain ⟨capped, houtcome, hextends⟩ := hcapped 2 (by decide) (by decide) session
  exact ⟨hmean, _, capped, hok, rfl, rfl, (hcancelled rfl).2, houtcome, hextends.changeTrace_eq,
    hextends.reason_of_lt (by decide)⟩

end SampledKmeans.Limits
