import SampledKmeans.Proofs.Refinement.Iteration
import SampledKmeans.Random.SplitMix
import SampledKmeans.Store.Scripted

/-!
# Runs

`Limits.iterateWith` counts down the iterations that remain, asks for a stop before
an iteration and asks the rules after it.  A run is described here without
counting: `ReachesWith` lists the states between its iterations, and `ending?` says
in which of them it ends and why.

The two descriptions agree, however the means overlap.  A run that reaches a state in
which it ends answers with that state (`ReachesWith.answers_iterate`), one that reaches
a failing iteration fails (`ReachesWith.fails_iterate`), and each run does one or the
other (`ReachesWith.exists_ending_or_failure`).  How many iterations `iterateWith` is
given does not matter as long as there are enough of them.
-/

namespace SampledKmeans.Limits

open Procedure

variable {σ ρ : Type}

/-! ## Where a run ends -/

/-- Whether the measurements so far end a run. -/
def convergence? (limits : Limits) (progress : Progress) : Option StopReason :=
  match plateau? progress.changeTrace with
  | some average => some (.stabilized average)
  | none =>
    if progress.changeTrace.getLast?.any (· < limits.changeLimit) then
      some (.belowLimit limits.changeLimit)
    else
      none

/-- The rule that ends a run in a state, if one does. -/
def rule? (limits : Limits) (progress : Progress) : Option StopReason :=
  stopReason? progress.iterations progress.changeTrace limits.changeLimit limits.maxIterations

/-- Why a run ends in a state: a rule says so, or the caller has asked to stop
after an iteration. -/
def ending? (limits : Limits) (stop : StopSignal σ) (progress : Progress)
    (session : Session σ ρ) : Option StopReason :=
  match limits.rule? progress with
  | some reason => some reason
  | none =>
    if 0 < progress.iterations && stop progress.iterations session.store then
      some .cancelled
    else
      none

variable {limits : Limits} {stop : StopSignal σ} {progress next : Progress}
  {session after : Session σ ρ} {reason : StopReason}

/-- The iteration limit counts when the measurements do not end the run. -/
theorem rule?_eq (limits : Limits) (progress : Progress) :
    limits.rule? progress = (limits.convergence? progress).or
      (if limits.maxIterations ≤ progress.iterations then
        some (.iterationLimit limits.maxIterations) else none) := by
  unfold rule? stopReason? convergence?
  cases plateau? progress.changeTrace with
  | some average => rfl
  | none =>
      dsimp only
      split_ifs <;> rfl

theorem rule?_eq_none_iff :
    limits.rule? progress = none ↔
      limits.convergence? progress = none ∧ progress.iterations < limits.maxIterations := by
  rw [rule?_eq, Option.or_eq_none_iff]
  simp

theorem rule?_eq_some_iff :
    limits.rule? progress = some reason ↔
      limits.convergence? progress = some reason ∨
        limits.convergence? progress = none ∧ limits.maxIterations ≤ progress.iterations ∧
          reason = .iterationLimit limits.maxIterations := by
  rw [rule?_eq, Option.or_eq_some_iff]
  simp [eq_comm (a := reason)]

theorem isConverged_of_convergence? (h : limits.convergence? progress = some reason) :
    reason.isConverged = true := by
  unfold convergence? at h
  split at h
  · cases h
    rfl
  · split_ifs at h
    cases h
    rfl

theorem ending?_eq_none_iff :
    limits.ending? stop progress session = none ↔
      limits.rule? progress = none ∧
        (0 < progress.iterations → stop progress.iterations session.store = false) := by
  unfold ending?
  cases limits.rule? progress <;> simp

theorem lt_maxIterations_of_ending? (h : limits.ending? stop progress session = none) :
    progress.iterations < limits.maxIterations :=
  (rule?_eq_none_iff.mp (ending?_eq_none_iff.mp h).1).2

theorem ending?_eq_some_iff :
    limits.ending? stop progress session = some reason ↔
      limits.rule? progress = some reason ∨
        limits.rule? progress = none ∧ 0 < progress.iterations ∧
          stop progress.iterations session.store = true ∧ reason = .cancelled := by
  unfold ending?
  cases limits.rule? progress <;> simp [and_assoc, eq_comm (a := reason)]

theorem rule?_start {seeds : List Centroid} (h : 0 < limits.maxIterations) :
    limits.rule? (Progress.start seeds) = none :=
  rule?_eq_none_iff.mpr ⟨rfl, h⟩

/-! ## The states of a run -/

/-- The states that a refinement reaches between its iterations, each with the
session at that moment. -/
inductive ReachesWith (store : PointStore σ ρ) (overlaps : Overlaps) (limits : Limits)
    (stop : StopSignal σ) (working : List Point) (seeds : List Centroid) (session : Session σ ρ) :
    Progress → Session σ ρ → Prop where
  | start :
      ReachesWith store overlaps limits stop working seeds session (Progress.start seeds) session
  | next {progress next : Progress} {before after : Session σ ρ}
      (reached : ReachesWith store overlaps limits stop working seeds session progress before)
      (goesOn : limits.ending? stop progress before = none)
      (answers : (progress.advanceWith store overlaps working).Answers before
        next after) :
      ReachesWith store overlaps limits stop working seeds session next after

/-- The states that a refinement reaches whose means do not overlap. -/
abbrev Reaches (store : PointStore σ ρ) (limits : Limits) (stop : StopSignal σ)
    (working : List Point) (seeds : List Centroid) (session : Session σ ρ) :
    Progress → Session σ ρ → Prop :=
  ReachesWith store .none limits stop working seeds session

variable {store : PointStore σ ρ} {overlaps : Overlaps} {working : List Point}
  {seeds : List Centroid} {before : Session σ ρ} {failure : Failure}

theorem ReachesWith.sound {k : Nat}
    (h : limits.ReachesWith store overlaps stop working seeds session progress after) (hk : 0 < k)
    (hworking : working ≠ []) (hseeds : seeds.map Centroid.id = clusterLabels k) :
    progress.Sound working k := by
  induction h with
  | start => exact .start hseeds
  | next _ _ hanswers ih => exact ih.advance hk hworking hanswers

theorem ReachesWith.iterations_le
    (h : limits.ReachesWith store overlaps stop working seeds session progress after) :
    progress.iterations ≤ limits.maxIterations := by
  cases h with
  | start => exact Nat.zero_le _
  | next _ hgoesOn hanswers =>
      rw [Progress.iterations_of_answers hanswers]
      exact lt_maxIterations_of_ending? hgoesOn

theorem ReachesWith.eq_start_of_iterations_eq_zero
    (h : limits.ReachesWith store overlaps stop working seeds session progress after)
    (hzero : progress.iterations = 0) : progress = Progress.start seeds := by
  cases h with
  | start => rfl
  | next _ _ hanswers => exact absurd (Progress.iterations_of_answers hanswers ▸ hzero) (by omega)

/-- A state in which a run ends comes after an iteration. -/
theorem iterations_pos_of_ending?
    (h : limits.ReachesWith store overlaps stop working seeds session progress after)
    (hmax : 0 < limits.maxIterations) (hending : limits.ending? stop progress after = some reason) :
    0 < progress.iterations := by
  cases h with
  | start =>
      rcases ending?_eq_some_iff.mp hending with hrule | ⟨-, hpos, -⟩
      · simp [rule?_start hmax] at hrule
      · exact hpos
  | next _ _ hanswers =>
      rw [Progress.iterations_of_answers hanswers]
      exact Nat.succ_pos _

/-! ## Iterating as a run -/

/-- What `iterateWith` makes of a state whose rules have not been asked. -/
def settle (store : PointStore σ ρ) (overlaps : Overlaps) (limits : Limits)
    (stop : StopSignal σ) (working : List Point) (remaining : Nat) (progress : Progress) :
    Procedure σ ρ (Progress × StopReason) :=
  match limits.rule? progress with
  | some reason => return (progress, reason)
  | none => limits.iterateWith store overlaps stop working remaining progress

theorem settle_of_rule?_eq_none {remaining : Nat} (h : limits.rule? progress = none) :
    limits.settle store overlaps stop working remaining progress =
      limits.iterateWith store overlaps stop working remaining progress := by
  simp only [settle, h]

theorem runIn_stopRequested (iterations : Nat) (session : Session σ ρ) :
    (stopRequested stop iterations).runIn session =
      (.ok (0 < iterations && stop iterations session.store), session) :=
  rfl

theorem iterateWith_succ (remaining : Nat) (progress : Progress) :
    limits.iterateWith store overlaps stop working (remaining + 1) progress = (do
      if ← stopRequested stop progress.iterations then
        return (progress, .cancelled)
      else
        limits.settle store overlaps stop working remaining
          (← progress.advanceWith store overlaps working)) :=
  rfl

theorem exists_remaining_of_rule?_eq_none {remaining : Nat}
    (hremaining : limits.maxIterations ≤ progress.iterations + remaining)
    (h : limits.rule? progress = none) : ∃ fewer, remaining = fewer + 1 := by
  have hlt := (rule?_eq_none_iff.mp h).2
  exact Nat.exists_eq_succ_of_ne_zero (by omega)

theorem answers_settle_of_ending? {remaining : Nat}
    (hremaining : limits.maxIterations ≤ progress.iterations + remaining)
    (h : limits.ending? stop progress session = some reason) :
    (limits.settle store overlaps stop working remaining progress).Answers session
      (progress, reason) session := by
  rcases ending?_eq_some_iff.mp h with hrule | ⟨hrule, hpos, hstop, rfl⟩
  · simp only [settle, hrule]
    exact answers_pure_iff.mpr ⟨rfl, rfl⟩
  · obtain ⟨remaining, rfl⟩ := exists_remaining_of_rule?_eq_none hremaining hrule
    rw [settle_of_rule?_eq_none hrule, iterateWith_succ, Answers, runIn_bind, runIn_stopRequested]
    simp only [hpos, decide_true, hstop, Bool.and_self, if_true]
    rfl

theorem runIn_settle_succ {remaining : Nat}
    (h : limits.ending? stop progress session = none) :
    (limits.settle store overlaps stop working (remaining + 1) progress).runIn session =
      (progress.advanceWith store overlaps working >>=
        limits.settle store overlaps stop working remaining).runIn session := by
  obtain ⟨hrule, hstop⟩ := ending?_eq_none_iff.mp h
  have hrequested :
      (0 < progress.iterations && stop progress.iterations session.store) = false := by
    simpa using hstop
  rw [settle_of_rule?_eq_none hrule, iterateWith_succ, runIn_bind, runIn_stopRequested, hrequested]
  rfl

/-- A run is at the state that it has reached, with the iterations that remain. -/
theorem ReachesWith.runIn_settle
    (h : limits.ReachesWith store overlaps stop working seeds session progress after)
    {total : Nat} (htotal : limits.maxIterations ≤ total) :
    ∃ remaining, limits.maxIterations ≤ progress.iterations + remaining ∧
      (limits.settle store overlaps stop working total (Progress.start seeds)).runIn session =
        (limits.settle store overlaps stop working remaining progress).runIn after := by
  induction h with
  | start => exact ⟨total, by simpa [Progress.start] using htotal, rfl⟩
  | next _ hgoesOn hanswers ih =>
      obtain ⟨remaining, hremaining, hrun⟩ := ih
      -- No rule has ended the run, so the limit leaves room for this iteration.
      obtain ⟨fewer, rfl⟩ :=
        exists_remaining_of_rule?_eq_none hremaining (ending?_eq_none_iff.mp hgoesOn).1
      refine ⟨fewer, ?_, ?_⟩
      · rw [Progress.iterations_of_answers hanswers]
        omega
      · rw [hrun, runIn_settle_succ hgoesOn, runIn_bind, hanswers.runIn_eq]

/-- A run that ends answers with the state in which it does. -/
theorem ReachesWith.answers_iterate
    (h : limits.ReachesWith store overlaps stop working seeds session progress after)
    (hmax : 0 < limits.maxIterations) (hending : limits.ending? stop progress after = some reason)
    {total : Nat} (htotal : limits.maxIterations ≤ total) :
    (limits.iterateWith store overlaps stop working total (Progress.start seeds)).Answers session
      (progress, reason) after := by
  obtain ⟨remaining, hremaining, hrun⟩ := h.runIn_settle htotal
  rw [← settle_of_rule?_eq_none (rule?_start hmax), Answers, hrun]
  exact answers_settle_of_ending? hremaining hending

/-- A run fails with its first failing iteration. -/
theorem ReachesWith.fails_iterate
    (h : limits.ReachesWith store overlaps stop working seeds session progress before)
    (hmax : 0 < limits.maxIterations) (hgoesOn : limits.ending? stop progress before = none)
    (hfails : (progress.advanceWith store overlaps working).Fails before failure after)
    {total : Nat} (htotal : limits.maxIterations ≤ total) :
    (limits.iterateWith store overlaps stop working total (Progress.start seeds)).Fails session
      failure after := by
  obtain ⟨remaining, hremaining, hrun⟩ := h.runIn_settle htotal
  obtain ⟨fewer, rfl⟩ :=
    exists_remaining_of_rule?_eq_none hremaining (ending?_eq_none_iff.mp hgoesOn).1
  rw [← settle_of_rule?_eq_none (rule?_start hmax), Fails, hrun, runIn_settle_succ hgoesOn]
  exact fails_bind_iff.mpr (.inl hfails)

/-- From every state of a run its end comes into reach: a state in which it
ends, or an iteration that fails. -/
theorem ReachesWith.exists_ending_or_failure
    (h : limits.ReachesWith store overlaps stop working seeds session progress before) :
    (∃ last after reason, limits.ReachesWith store overlaps stop working seeds session last after ∧
      limits.ending? stop last after = some reason) ∨
    ∃ last between failure after,
      limits.ReachesWith store overlaps stop working seeds session last between ∧
      limits.ending? stop last between = none ∧
      (last.advanceWith store overlaps working).Fails between failure after := by
  -- No rule is left to end the run only below the iteration limit.
  induction hleft : limits.maxIterations - progress.iterations generalizing progress before with
  | zero =>
      cases hending : limits.ending? stop progress before with
      | some reason => exact .inl ⟨progress, before, reason, h, hending⟩
      | none =>
          have := lt_maxIterations_of_ending? hending
          omega
  | succ left ih =>
      cases hending : limits.ending? stop progress before with
      | some reason => exact .inl ⟨progress, before, reason, h, hending⟩
      | none =>
          rcases answers_or_fails (progress.advanceWith store overlaps working) before with
            ⟨next, after, hanswers⟩ | ⟨failure, after, hfails⟩
          · refine ih (h.next hending hanswers) ?_
            rw [Progress.iterations_of_answers hanswers]
            omega
          · exact .inr ⟨progress, before, failure, after, h, hending, hfails⟩

/-! ## Refining as a run -/

/-- What refinement asks of its arguments. -/
structure Admits (limits : Limits) (working : List Point) (seeds : List Centroid) : Prop where
  working_ne_nil : working ≠ []
  seeds_ne_nil : seeds ≠ []
  maxIterations_pos : 0 < limits.maxIterations
  ids_eq : seeds.map Centroid.id = clusterLabels seeds.length

theorem Admits.seeds_pos (h : limits.Admits working seeds) : 0 < seeds.length :=
  List.length_pos_iff.mpr h.seeds_ne_nil

theorem ReachesWith.sound_of_admits
    (h : limits.ReachesWith store overlaps stop working seeds session progress after)
    (hadmits : limits.Admits working seeds) : progress.Sound working seeds.length :=
  h.sound hadmits.seeds_pos hadmits.working_ne_nil hadmits.ids_eq

theorem outcome_refine_of_admits (h : limits.Admits working seeds) :
    (limits.refineWith store overlaps stop working seeds).outcome session =
      ((limits.iterateWith store overlaps stop working limits.maxIterations
        (Progress.start seeds)).outcome session).map fun ended => ended.1.finish ended.2 := by
  have hinput : ¬ ((working.isEmpty || seeds.isEmpty) = true) := by
    simp [h.working_ne_nil, h.seeds_ne_nil]
  rw [refineWith, if_neg hinput, if_neg (Nat.ne_of_gt h.maxIterations_pos),
    if_neg (not_not_intro h.ids_eq), outcome, outcome, runIn_bind]
  rcases (limits.iterateWith store overlaps stop working limits.maxIterations
    (Progress.start seeds)).runIn session with ⟨failure | ⟨progress, reason⟩, after⟩
  · rfl
  · -- Reporting the end changes nothing of the answer.
    cases hdead : progress.dead.isEmpty <;> simp only [hdead] <;> rfl

theorem admits_of_outcome_refine {result : Refinement}
    (h : (limits.refineWith store overlaps stop working seeds).outcome session = .ok result) :
    limits.Admits working seeds := by
  unfold refineWith at h
  split_ifs at h with hinput hmax hids
  · cases h
  · cases h
  · cases h
  · rw [Bool.or_eq_true, not_or, List.isEmpty_iff, List.isEmpty_iff] at hinput
    exact ⟨hinput.1, hinput.2, Nat.pos_of_ne_zero hmax, not_not.mp hids⟩

theorem ReachesWith.outcome_refine_of_ending?
    (h : limits.ReachesWith store overlaps stop working seeds session progress after)
    (hadmits : limits.Admits working seeds)
    (hending : limits.ending? stop progress after = some reason) :
    (limits.refineWith store overlaps stop working seeds).outcome session =
      .ok (progress.finish reason) := by
  rw [outcome_refine_of_admits hadmits,
    (h.answers_iterate hadmits.maxIterations_pos hending (Nat.le_refl _)).outcome_eq]
  rfl

theorem ReachesWith.outcome_refine_of_fails
    (h : limits.ReachesWith store overlaps stop working seeds session progress before)
    (hadmits : limits.Admits working seeds) (hgoesOn : limits.ending? stop progress before = none)
    (hfails : (progress.advanceWith store overlaps working).Fails before failure after) :
    (limits.refineWith store overlaps stop working seeds).outcome session = .error failure := by
  rw [outcome_refine_of_admits hadmits,
    (h.fails_iterate hadmits.maxIterations_pos hgoesOn hfails (Nat.le_refl _)).outcome_eq]
  rfl

/-- The refinement succeeds when its run reaches a state in which it ends, and
answers with that state. -/
theorem outcome_refineWith_eq_ok_iff (hadmits : limits.Admits working seeds) {result : Refinement} :
    (limits.refineWith store overlaps stop working seeds).outcome session = .ok result ↔
      ∃ last after reason, limits.ReachesWith store overlaps stop working seeds session last after ∧
        limits.ending? stop last after = some reason ∧ result = last.finish reason := by
  constructor
  · intro h
    rcases ReachesWith.start.exists_ending_or_failure with
      ⟨last, after, reason, hreaches, hending⟩ | ⟨_, _, _, _, hreaches, hgoesOn, hfails⟩
    · rw [hreaches.outcome_refine_of_ending? hadmits hending] at h
      exact ⟨last, after, reason, hreaches, hending, (Except.ok.inj h).symm⟩
    · rw [hreaches.outcome_refine_of_fails hadmits hgoesOn hfails] at h
      cases h
  · rintro ⟨last, after, reason, hreaches, hending, rfl⟩
    exact hreaches.outcome_refine_of_ending? hadmits hending

/-- A refinement answers with a sound state that comes after an iteration. -/
theorem exists_sound_of_outcome_refine {result : Refinement}
    (h : (limits.refineWith store overlaps stop working seeds).outcome session = .ok result) :
    ∃ (last : Progress) (reason : StopReason), last.Sound working seeds.length ∧
      0 < last.iterations ∧ result = last.finish reason := by
  have hadmits := admits_of_outcome_refine h
  obtain ⟨last, after, reason, hreaches, hending, rfl⟩ :=
    (outcome_refineWith_eq_ok_iff hadmits).mp h
  exact ⟨last, reason, hreaches.sound_of_admits hadmits,
    iterations_pos_of_ending? hreaches hadmits.maxIterations_pos hending, rfl⟩

/-- The refinement fails when its run reaches a failing iteration, and as that
iteration does. -/
theorem outcome_refineWith_eq_error_iff (hadmits : limits.Admits working seeds) :
    (limits.refineWith store overlaps stop working seeds).outcome session = .error failure ↔
      ∃ last between after,
        limits.ReachesWith store overlaps stop working seeds session last between ∧
        limits.ending? stop last between = none ∧
        (last.advanceWith store overlaps working).Fails between failure after := by
  constructor
  · intro h
    rcases ReachesWith.start.exists_ending_or_failure with
      ⟨_, _, _, hreaches, hending⟩ | ⟨last, between, failure', after, hreaches, hgoesOn, hfails⟩
    · rw [hreaches.outcome_refine_of_ending? hadmits hending] at h
      cases h
    · rw [hreaches.outcome_refine_of_fails hadmits hgoesOn hfails] at h
      exact ⟨last, between, after, hreaches, hgoesOn, Except.error.inj h ▸ hfails⟩
  · rintro ⟨last, between, after, hreaches, hgoesOn, hfails⟩
    exact hreaches.outcome_refine_of_fails hadmits hgoesOn hfails

/-! ### Without overlap -/

theorem outcome_refine_eq_ok_iff (hadmits : limits.Admits working seeds) {result : Refinement} :
    (limits.refine store stop working seeds).outcome session = .ok result ↔
      ∃ last after reason, limits.Reaches store stop working seeds session last after ∧
        limits.ending? stop last after = some reason ∧ result = last.finish reason :=
  outcome_refineWith_eq_ok_iff hadmits

theorem outcome_refine_eq_error_iff (hadmits : limits.Admits working seeds) :
    (limits.refine store stop working seeds).outcome session = .error failure ↔
      ∃ last between after, limits.Reaches store stop working seeds session last between ∧
        limits.ending? stop last between = none ∧
        (last.advance store working).Fails between failure after :=
  outcome_refineWith_eq_error_iff hadmits

end SampledKmeans.Limits

/-! ## Points on a line

The simplest inputs of a refinement, on which the results about runs can be
tried. -/

namespace SampledKmeans

/-- The position of a number on a line. -/
def SparseVector.onLine (x : Float) : SparseVector :=
  .ofCoordinates [(0, x)]

/-- Points on a line, numbered in the given order. -/
def pointsOnLine (xs : List Float) : List Point :=
  xs.mapIdx fun i x => ⟨i + 1, .onLine x⟩

/-- Centroids on a line, numbered in the given order. -/
def centroidsOnLine (xs : List Float) : List Centroid :=
  xs.mapIdx fun i x => ⟨i + 1, .onLine x⟩

end SampledKmeans
