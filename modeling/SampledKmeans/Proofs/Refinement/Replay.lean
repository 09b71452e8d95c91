import SampledKmeans.Proofs.Refinement.Run

/-!
# Runs that are repeated

A run that is repeated with a smaller iteration limit passes through the same
states and ends at the limit, because the rules before the limit do not look at
it (`rule?_cappedAt_iterations`).  In the same session this holds for every
store (`Reaches.cappedAt`).  When the means are a function of the positions it
holds in any other session as well, and without the caller's signal
(`Reaches.replay`).
-/

namespace SampledKmeans

open Procedure

variable {σ ρ : Type}

/-! ## Stores without memory -/

/-- The store answers for a mean as the function does, whatever its state. -/
def PointStore.HasMean (store : PointStore σ ρ)
    (mean : List SparseVector → Except Error SparseVector) : Prop :=
  ∀ positions state, (store.mean positions state).1.outcome = mean positions

variable {store : PointStore σ ρ} {mean : List SparseVector → Except Error SparseVector}

theorem PointStore.HasMean.steady_recenter (hmean : store.HasMean mean) (points : List Point)
    (labels : List Nat) (centroid : Centroid) :
    (store.recenter points labels centroid).Steady := by
  rw [recenter_eq]
  split_ifs
  · exact steady_pure _
  · refine (steady_call fun first second => ?_).bind fun _ => steady_pure _
    rw [hmean, hmean]

theorem Progress.steady_advance (hmean : store.HasMean mean) (working : List Point)
    (progress : Progress) : (progress.advance store working).Steady := by
  rw [advance_eq, PointStore.assign_eq]
  refine (steady_report _).bind fun _ => (steady_expect _).bind fun labels =>
    (steady_expect _).bind fun counts => Steady.bind ?_ fun centroids => steady_pure _
  exact (Steady.mapM (hmean.steady_recenter working labels) _).checkpointed _

namespace Limits

variable {limits : Limits} {stop : StopSignal σ} {working : List Point} {seeds : List Centroid}
  {progress : Progress} {session after : Session σ ρ} {reason : StopReason} {n : Nat}

/-! ## A smaller iteration limit -/

/-- The limits with another number of iterations. -/
def cappedAt (limits : Limits) (n : Nat) : Limits :=
  { limits with maxIterations := n }

theorem Admits.cappedAt (h : limits.Admits working seeds) (hn : 0 < n) :
    (limits.cappedAt n).Admits working seeds where
  working_ne_nil := h.working_ne_nil
  seeds_ne_nil := h.seeds_ne_nil
  maxIterations_pos := hn
  ids_eq := h.ids_eq

theorem rule?_cappedAt_eq_none (h : limits.rule? progress = none) (hn : progress.iterations < n) :
    (limits.cappedAt n).rule? progress = none :=
  rule?_eq_none_iff.mpr ⟨(rule?_eq_none_iff.mp h).1, hn⟩

/-- A run that is capped at the iterations it has completed ends there, with the
cap as the reason unless the measurements end it. -/
theorem rule?_cappedAt_iterations (limits : Limits) (progress : Progress) :
    (limits.cappedAt progress.iterations).rule? progress =
      some ((limits.convergence? progress).getD (.iterationLimit progress.iterations)) := by
  rw [rule?_eq, show (limits.cappedAt progress.iterations).convergence? progress =
    limits.convergence? progress from rfl]
  cases limits.convergence? progress with
  | some reason => rfl
  | none => exact if_pos (Nat.le_refl _)

/-- The measurements ended a run that has ended, if the reason says so. -/
theorem convergence?_eq_of_ending? (h : limits.ending? stop progress session = some reason) :
    limits.convergence? progress = if reason.isConverged then some reason else none := by
  rcases ending?_eq_some_iff.mp h with hrule | ⟨hrule, -, -, rfl⟩
  · rcases rule?_eq_some_iff.mp hrule with hconvergence | ⟨hconvergence, -, rfl⟩
    · rw [hconvergence, if_pos (isConverged_of_convergence? hconvergence)]
    · exact hconvergence
  · exact (rule?_eq_none_iff.mp hrule).1

/-! ## Runs under a smaller limit -/

theorem Reaches.cappedAt (h : limits.Reaches store stop working seeds session progress after)
    (hn : progress.iterations ≤ n) :
    (limits.cappedAt n).Reaches store stop working seeds session progress after := by
  induction h with
  | start => exact .start
  | next _ hgoesOn hanswers ih =>
      rw [Progress.iterations_of_answers hanswers] at hn
      obtain ⟨hrule, hstop⟩ := ending?_eq_none_iff.mp hgoesOn
      exact (ih (by omega)).next
        (ending?_eq_none_iff.mpr ⟨rule?_cappedAt_eq_none hrule hn, hstop⟩) hanswers

theorem Reaches.replay (h : limits.Reaches store stop working seeds session progress after)
    (hmean : store.HasMean mean) (hn : progress.iterations ≤ n) (other : Session σ ρ) :
    ∃ behind, (limits.cappedAt n).Reaches store .never working seeds other progress behind := by
  induction h with
  | start => exact ⟨other, .start⟩
  | next _ hgoesOn hanswers ih =>
      rw [Progress.iterations_of_answers hanswers] at hn
      obtain ⟨between, hreaches⟩ := ih (by omega)
      -- The sessions are different ones, but a steady iteration makes the same state in both.
      obtain ⟨behind, hanswers⟩ := (Progress.steady_advance hmean _ _).answers hanswers between
      have hrule := (ending?_eq_none_iff.mp hgoesOn).1
      exact ⟨behind, hreaches.next
        (ending?_eq_none_iff.mpr ⟨rule?_cappedAt_eq_none hrule hn, fun _ => rfl⟩) hanswers⟩

/-- Without a memory in the store, the state after a number of iterations
depends on the working set and the seeds alone. -/
theorem Reaches.eq_of_iterations_eq (hmean : store.HasMean mean)
    (h : limits.Reaches store stop working seeds session progress after) {limits' : Limits}
    {stop' : StopSignal σ} {session' after' : Session σ ρ} {progress' : Progress}
    (h' : limits'.Reaches store stop' working seeds session' progress' after')
    (heq : progress.iterations = progress'.iterations) : progress = progress' := by
  induction h generalizing progress' after' with
  | start =>
      exact (h'.eq_start_of_iterations_eq_zero heq.symm).symm
  | next _ _ hanswers ih =>
      rw [Progress.iterations_of_answers hanswers] at heq
      cases h' with
      | start => exact absurd heq (Nat.succ_ne_zero _)
      | @next before' _ between' _ hreaches' _ hanswers' =>
          rw [Progress.iterations_of_answers hanswers', Nat.succ_inj] at heq
          obtain rfl := ih hreaches' heq
          obtain ⟨_, hsame⟩ := (Progress.steady_advance hmean _ _).answers hanswers between'
          exact Except.ok.inj (hsame.outcome_eq.symm.trans hanswers'.outcome_eq)

/-- What a run has completed is what it answers when it is capped there. -/
theorem Reaches.outcome_refine_cappedAt
    (h : limits.Reaches store stop working seeds session progress after)
    (hadmits : limits.Admits working seeds) (hpos : 0 < progress.iterations) :
    ((limits.cappedAt progress.iterations).refine store stop working seeds).outcome session =
      .ok (progress.finish
        ((limits.convergence? progress).getD (.iterationLimit progress.iterations))) :=
  (h.cappedAt (Nat.le_refl _)).outcome_refine_of_ending? (hadmits.cappedAt hpos)
    (ending?_eq_some_iff.mpr (.inl (rule?_cappedAt_iterations limits progress)))

/-- What a run has completed is what it answers in any session when it is capped
there and nobody asks it to stop. -/
theorem Reaches.outcome_refine_replay
    (h : limits.Reaches store stop working seeds session progress after)
    (hadmits : limits.Admits working seeds) (hpos : 0 < progress.iterations)
    (hmean : store.HasMean mean) (other : Session σ ρ) :
    ((limits.cappedAt progress.iterations).refine store .never working seeds).outcome other =
      .ok (progress.finish
        ((limits.convergence? progress).getD (.iterationLimit progress.iterations))) := by
  obtain ⟨behind, hreaches⟩ := h.replay hmean (Nat.le_refl _) other
  exact hreaches.outcome_refine_of_ending? (hadmits.cappedAt hpos)
    (ending?_eq_some_iff.mpr (.inl (rule?_cappedAt_iterations limits progress)))

/-! ## Earlier states of a run -/

/-- A run comes through a state after each number of iterations.  It goes on
from there and only adds to the measurements. -/
theorem Reaches.exists_earlier
    (h : limits.Reaches store stop working seeds session progress after)
    (hn : n < progress.iterations) :
    ∃ earlier between, limits.Reaches store stop working seeds session earlier between ∧
      earlier.iterations = n ∧ limits.ending? stop earlier between = none ∧
      earlier.changeTrace <+: progress.changeTrace := by
  induction h with
  | start => exact absurd hn (Nat.not_lt_zero n)
  | @next progress next before after hreaches hgoesOn hanswers ih =>
      have hextends := Progress.changeTrace_prefix_of_answers hanswers
      rw [Progress.iterations_of_answers hanswers, Nat.lt_succ_iff] at hn
      rcases Nat.lt_or_eq_of_le hn with hlt | heq
      · obtain ⟨earlier, between, hearlier, hcount, hnone, hshorter⟩ := ih hlt
        exact ⟨earlier, between, hearlier, hcount, hnone, hshorter.trans hextends⟩
      · exact ⟨progress, before, hreaches, heq.symm, hgoesOn, hextends⟩

end Limits

end SampledKmeans
