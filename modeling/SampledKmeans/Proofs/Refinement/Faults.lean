import SampledKmeans.Proofs.Procedure.Overlap
import SampledKmeans.Proofs.Refinement.Run
import SampledKmeans.Proofs.Store.Fault

/-!
# Faults during a refinement

A refinement makes no calls but for means.  Without overlap the first faulty one ends
it.  Where means overlap, those that have begun are all gone through, and one of the
faulty ones is reported (`Procedure.tracks_mapOverlapping`).  Either way the failure
shows the state in which its iteration began (`Limits.tracks_refineWith`).
-/

namespace SampledKmeans

open Procedure

variable {σ ρ α β : Type} {store : PointStore σ ρ} {overlaps : Overlaps}
  {limit : Option Duration} {working : List Point} {session : Session σ ρ}

/-! ## Means that overlap -/

namespace Procedure

/-- A procedure that asks for means.  It answers if all of them are fine, or else asks
for one and fails. -/
inductive AsksMeans (limit : Option Duration) (R : Call → Failure → Prop)
    (recorded : Procedure (Recorded σ) ρ α) (procedure : Procedure σ ρ α)
    (session : Session σ ρ) : Prop where
  | answered {calls : List Call} {a : α} {after : Session σ ρ}
      (records : recorded.Records procedure session calls)
      (answers : procedure.Answers session a after)
      (means : ∀ call ∈ calls, call.operation = "mean")
      (fine : ∀ call ∈ calls, call.IsFine limit)
  | failed {call : Call} {failure : Failure} {after : Session σ ρ}
      (records : recorded.Records procedure session [call])
      (fails : procedure.Fails session failure after)
      (mean : call.operation = "mean") (faulty : ¬ call.IsFine limit) (shown : R call failure)

/-- Some results are what some means come to: each failure among them shows one that is
faulty, and without a failure all are fine. -/
structure Accounts (limit : Option Duration) (R : Call → Failure → Prop) (calls : List Call)
    (results : List (Except Failure β)) : Prop where
  means : ∀ call ∈ calls, call.operation = "mean"
  shown : ∀ failure, .error failure ∈ results →
    ∃ call ∈ calls, ¬ call.IsFine limit ∧ R call failure
  fine : (∀ failure, .error failure ∉ results) → ∀ call ∈ calls, call.IsFine limit

variable {overlapping : Prop} {R : Call → Failure → Prop} {recorded : Procedure (Recorded σ) ρ α}
  {procedure : Procedure σ ρ α} {f' : α → Procedure (Recorded σ) ρ β} {f : α → Procedure σ ρ β}

theorem Accounts.nil : Accounts limit R [] ([] : List (Except Failure β)) where
  means := by simp
  shown := by simp
  fine := by simp

theorem Accounts.append {calls further : List Call} {results others : List (Except Failure β)}
    (h : Accounts limit R calls results) (h' : Accounts limit R further others) :
    Accounts limit R (calls ++ further) (results ++ others) where
  means := List.forall_mem_append.mpr ⟨h.means, h'.means⟩
  shown failure hfailure := by
    rcases List.mem_append.mp hfailure with hmem | hmem
    · obtain ⟨call, hcall, hshown⟩ := h.shown failure hmem
      exact ⟨call, List.mem_append_left further hcall, hshown⟩
    · obtain ⟨call, hcall, hshown⟩ := h'.shown failure hmem
      exact ⟨call, List.mem_append_right calls hcall, hshown⟩
  fine hfailures := by
    simp only [List.mem_append, not_or] at hfailures
    exact List.forall_mem_append.mpr ⟨h.fine fun failure => (hfailures failure).1,
      h'.fine fun failure => (hfailures failure).2⟩

namespace AsksMeans

theorem tracks (h : AsksMeans limit R recorded procedure session) :
    Tracks limit overlapping R recorded procedure session := by
  cases h with
  | @answered calls _ _ records _ _ fine => exact ⟨calls, records, .inl fine⟩
  | @failed call failure after records fails _ faulty shown =>
      exact ⟨[call], records, .inr ⟨[], .single call faulty, failure, after, rfl, by simp, fails,
        shown⟩⟩

theorem bind_pure (h : AsksMeans limit R recorded procedure session) (g : α → β) :
    AsksMeans limit R (recorded >>= fun a => pure (g a)) (procedure >>= fun a => pure (g a))
      session := by
  cases h with
  | @answered calls a after records answers means fine =>
      have hanswers : (procedure >>= fun a => pure (g a)).Answers session (g a) after :=
        answers.answers_bind_iff.mpr (answers_pure_iff.mpr ⟨rfl, rfl⟩)
      exact .answered (records.bind_quiet fun a => quiet_pure (g a)) hanswers means fine
  | failed records fails mean faulty shown =>
      exact .failed (records.bind_quiet fun a => quiet_pure (g a)) fails.bind mean faulty shown

theorem exists_accounts (h : AsksMeans limit R recorded procedure session) :
    ∃ calls, recorded.Records procedure session calls ∧
      Accounts limit R calls [procedure.outcome session] := by
  cases h with
  | @answered calls _ _ records answers means fine =>
      refine ⟨calls, records, means, fun failure hfailure => ?_, fun _ => fine⟩
      rw [answers.outcome_eq, List.mem_singleton] at hfailure
      cases hfailure
  | @failed call failure after records fails mean faulty shown =>
      refine ⟨[call], records, List.forall_mem_singleton.mpr mean, fun other hother => ?_,
        fun hfine => ?_⟩
      · rw [fails.outcome_eq, List.mem_singleton] at hother
        cases hother
        exact ⟨call, List.mem_singleton_self call, faulty, shown⟩
      · exact absurd (List.mem_singleton.mpr fails.outcome_eq.symm) (hfine failure)

theorem exists_accounts_attemptAt {entry : Nat × α}
    (h : AsksMeans limit R (f' entry.2) (f entry.2) session) :
    ∃ calls result after, (attemptAt f' entry).Records (attemptAt f entry) session calls ∧
      (attemptAt f entry).Answers session (entry.1, result) after ∧
      Accounts limit R calls [result] := by
  obtain ⟨calls, hrecords, haccounts⟩ := h.exists_accounts
  have hattempt : (attempt (f' entry.2)).Records (attempt (f entry.2)) session calls := by
    intro earlier
    rw [runIn_attempt, runIn_attempt, hrecords.outcome_eq earlier, hrecords earlier]
  refine ⟨calls, (f entry.2).outcome session, ((f entry.2).runIn session).2, ?_,
    answers_attemptAt_iff.mpr ⟨rfl, rfl⟩, haccounts⟩
  exact hattempt.bind_quiet fun result => quiet_pure (entry.1, result)

/-- All that is ahead is gone through, whatever fails. -/
theorem exists_accounts_attempts (h : ∀ a session, AsksMeans limit R (f' a) (f a) session)
    (entries : List (Nat × α)) (session : Session σ ρ) :
    ∃ calls tried after,
      (entries.mapM (attemptAt f')).Records (entries.mapM (attemptAt f)) session calls ∧
      (entries.mapM (attemptAt f)).Answers session tried after ∧
      Accounts limit R calls (tried.map Prod.snd) := by
  induction entries generalizing session with
  | nil => exact ⟨[], [], session, quiet_pure [] session, answers_pure_iff.mpr ⟨rfl, rfl⟩, .nil⟩
  | cons entry entries ih =>
      obtain ⟨calls, result, between, hrecords, hanswers, haccounts⟩ :=
        (h entry.2 session).exists_accounts_attemptAt
      obtain ⟨further, tried, after, hrest, htried, hothers⟩ := ih between
      rw [List.mapM_cons, List.mapM_cons]
      refine ⟨calls ++ further, (entry.1, result) :: tried, after,
        hrecords.bind_of_answers hanswers (hrest.bind_quiet fun bs => quiet_pure _), ?_,
        haccounts.append hothers⟩
      exact answers_bind_iff.mpr ⟨_, between, hanswers,
        answers_bind_iff.mpr ⟨tried, after, htried, answers_pure_iff.mpr ⟨rfl, rfl⟩⟩⟩

end AsksMeans

/-- What is ahead is gone through as a whole, and what follows up to the first faulty
call. -/
theorem tracks_mapOverlapping {overlap : Overlap}
    (h : ∀ a session, AsksMeans limit R (f' a) (f a) session)
    (hoverlapping : overlap.ahead ≠ [] → overlapping) (l : List α) (session : Session σ ρ) :
    Tracks limit overlapping R (mapOverlapping overlap f' l) (mapOverlapping overlap f l)
      session := by
  by_cases hahead : overlap.ahead = []
  · rw [mapOverlapping_of_ahead_eq_nil hahead, mapOverlapping_of_ahead_eq_nil hahead]
    exact .mapM (fun a _ session => (h a session).tracks) session
  obtain ⟨calls, tried, between, hrecords, hanswers, haccounts⟩ :=
    AsksMeans.exists_accounts_attempts h (overlap.early l) session
  cases hfailure : overlap.failure? (tried.map Prod.snd) with
  | some failure =>
      obtain ⟨reported, hmem, hfaulty, hshown⟩ :=
        haccounts.shown failure (Overlap.mem_of_failure? hfailure)
      obtain ⟨earlier, breakdown, hcalls, hearlier, rfl⟩ :=
        exists_breakdown haccounts.means (hoverlapping hahead) hmem hfaulty
      refine ⟨calls, ?_, .inr ⟨earlier, breakdown, failure, between, hcalls, hearlier, ?_, hshown⟩⟩
      · refine hrecords.bind_quiet_of_answers hanswers ?_
        rw [hfailure]
        exact quiet_throw failure
      · refine fails_bind_iff.mpr (.inr ⟨tried, between, hanswers, ?_⟩)
        rw [hfailure]
        rfl
  | none =>
      have hfine : ∀ call ∈ calls, call.IsFine limit :=
        haccounts.fine (Overlap.failure?_eq_none_iff.mp hfailure)
      refine .bind ⟨calls, hrecords, .inl hfine⟩ fun tried' between' hanswers' => ?_
      obtain ⟨htried, rfl⟩ := Prod.mk.inj (hanswers.symm.trans hanswers')
      obtain rfl := Except.ok.inj htried
      rw [hfailure]
      refine .mapM (fun entry _ session => ?_) between
      unfold answerOr
      cases Overlap.answer? tried entry.2 with
      | none => exact (h entry.1 session).tracks
      | some b => exact .of_quiet (quiet_pure b)

end Procedure

/-! ## Iterations -/

namespace PointStore

theorem asksMeans_askMean (positions : List SparseVector) :
    AsksMeans limit
      (fun call failure => call.operation = "mean" ∧ call.Surfaces store.metric limit id failure)
      ((store.recorded.timed limit).askMean positions) ((store.timed limit).askMean positions)
      session := by
  have hrecords := store.records_askMean limit session positions
  cases houtcome : ((store.mean positions session.store).1.guardedMean limit).outcome with
  | ok v =>
      refine .answered hrecords (answers_call_iff.mpr ⟨houtcome, rfl⟩)
        (List.forall_mem_singleton.mpr rfl) (List.forall_mem_singleton.mpr fun error hfault => ?_)
      cases houtcome.symm.trans (Call.fault_mean_iff.mp hfault)
  | error error =>
      refine .failed hrecords (fails_call_iff.mpr ⟨error, houtcome, rfl, rfl⟩) rfl
        (fun hfine => hfine error (Call.fault_mean_iff.mpr houtcome)) ⟨rfl, fun other hother => ?_⟩
      obtain rfl := Except.error.inj (houtcome.symm.trans (Call.fault_mean_iff.mp hother))
      exact .inl rfl

theorem asksMeans_recenter (labels : List Nat) (centroid : Centroid) :
    AsksMeans limit
      (fun call failure => call.operation = "mean" ∧ call.Surfaces store.metric limit id failure)
      ((store.recorded.timed limit).recenter working labels centroid)
      ((store.timed limit).recenter working labels centroid) session := by
  rw [recenter_eq, recenter_eq]
  split_ifs
  · exact .answered (quiet_pure centroid session) (answers_pure_iff.mpr ⟨rfl, rfl⟩) (by simp)
      (by simp)
  · exact (asksMeans_askMean _).bind_pure fun position => { centroid with position }

end PointStore

/-- A faulty mean of an iteration ends it, and the failure shows the state before. -/
theorem Progress.tracks_advanceWith (progress : Progress) :
    Tracks limit overlaps.Parallel (fun call failure => call.operation = "mean" ∧
        call.Surfaces store.metric limit (Error.withCheckpoint progress.checkpoint) failure)
      (progress.advanceWith (store.recorded.timed limit) overlaps working)
      (progress.advanceWith (store.timed limit) overlaps working) session := by
  unfold advanceWith
  refine .bind (.of_quiet (quiet_report _)) fun _ _ _ => ?_
  refine .bind (.of_quiet (store.quiet_assign limit working progress.centroids))
    fun labels _ _ => ?_
  refine .bind (.of_quiet (quiet_expect _)) fun counts _ _ => ?_
  refine .bind (.checkpointed (tracks_mapOverlapping (fun c session => ?_)
    (fun hahead => ⟨progress.iterations, hahead⟩) _ _)) fun moved _ _ => .of_quiet (quiet_pure _)
  exact PointStore.asksMeans_recenter labels c

namespace Limits

variable {limits : Limits} {stop : StopSignal σ} {seeds : List Centroid}

/-- A faulty mean, with the iteration that it ends. -/
def FailsIn (store : PointStore σ ρ) (overlaps : Overlaps) (limits : Limits) (stop : StopSignal σ)
    (working : List Point) (seeds : List Centroid) (session : Session σ ρ) (last : Progress)
    (failure : Failure) : Prop :=
  ∃ between after, limits.ReachesWith store overlaps stop working seeds session last between ∧
    limits.ending? stop last between = none ∧
    (last.advanceWith store overlaps working).Fails between failure after

theorem quiet_stopRequested (stop : StopSignal σ) (iterations : Nat) :
    (stopRequested stop.recorded iterations : Procedure (Recorded σ) ρ Bool).Quiet
      (stopRequested stop iterations) :=
  quiet_iff_lifts.mpr fun _ _ => rfl

/-- What a faulty mean of a run shows. -/
def Surfaces (store : PointStore σ ρ) (overlaps : Overlaps) (limit : Option Duration)
    (limits : Limits) (stop : StopSignal σ) (working : List Point) (seeds : List Centroid)
    (session : Session σ ρ) (call : Call) (failure : Failure) : Prop :=
  call.operation = "mean" ∧ ∃ last,
    limits.FailsIn (store.timed limit) overlaps stop working seeds session last failure ∧
    call.Surfaces store.metric limit (Error.withCheckpoint last.checkpoint) failure

theorem ReachesWith.tracks_iterateWith {progress : Progress} {between : Session σ ρ}
    (remaining : Nat)
    (hreaches : limits.ReachesWith (store.timed limit) overlaps stop working seeds session progress
      between)
    (hrule : limits.rule? progress = none) :
    Tracks limit overlaps.Parallel
      (limits.Surfaces store overlaps limit stop working seeds session)
      (limits.iterateWith (store.recorded.timed limit) overlaps stop.recorded working remaining
        progress)
      (limits.iterateWith (store.timed limit) overlaps stop working remaining progress)
      between := by
  -- Carried along: the state is one that the run reaches, and no rule ends it there.
  induction remaining generalizing progress between with
  | zero => exact .of_quiet (quiet_pure _)
  | succ remaining ih =>
      rw [iterateWith_succ, iterateWith_succ]
      refine .bind (.of_quiet (quiet_stopRequested stop progress.iterations))
        fun stopped between' hstopped => ?_
      obtain ⟨hvalue, rfl⟩ := Prod.mk.inj ((runIn_stopRequested _ _).symm.trans hstopped)
      cases stopped with
      | true => exact .of_quiet (quiet_pure _)
      | false =>
          have hgoesOn : limits.ending? stop progress between = none :=
            ending?_eq_none_iff.mpr ⟨hrule, by simpa using Except.ok.inj hvalue⟩
          refine .bind (progress.tracks_advanceWith.imp
            fun call failure after hfails ⟨hkind, hsurfaces⟩ =>
              ⟨hkind, progress, ⟨between, after, hreaches, hgoesOn, hfails⟩, hsurfaces⟩)
            fun next after hanswers => ?_
          unfold settle
          cases hnext : limits.rule? next with
          | some reason => exact .of_quiet (quiet_pure _)
          | none => exact ih (hreaches.next hgoesOn hanswers) hnext

theorem tracks_refineWith :
    Tracks limit overlaps.Parallel
      (limits.Surfaces store overlaps limit stop working seeds session)
      (limits.refineWith (store.recorded.timed limit) overlaps stop.recorded working seeds)
      (limits.refineWith (store.timed limit) overlaps stop working seeds) session := by
  unfold refineWith
  split_ifs with hinput hmax hids
  · exact .of_quiet (quiet_fail _)
  · exact .of_quiet (quiet_fail _)
  · exact .of_quiet (quiet_fail _)
  · refine .bind (ReachesWith.start.tracks_iterateWith _ (rule?_start (Nat.pos_of_ne_zero hmax)))
      fun ended _ _ => .of_quiet ?_
    refine (quiet_report _).bind fun _ => ?_
    dsimp only
    split_ifs
    · exact (quiet_report _).bind fun _ => quiet_pure _
    · exact quiet_pure _

end Limits

end SampledKmeans
