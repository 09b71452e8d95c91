import SampledKmeans.Proofs.Store.Record
import SampledKmeans.Proofs.Store.Scan

/-!
# Faults of a store

A call is faulty when its reply is an error or comes too late, and a scan also
when one of its items is.  `Call.Fault` names the error that stands for it: the
storage error that the store has reported, or one that names the operation.

A procedure *tracks* the faults of its calls when all of them are fine, or all up to
the first faulty one, and that one or one of those beside it decides how the procedure
fails (`Procedure.Tracks`).  Only means can be beside a faulty call, and only where the
calls may overlap; else the first faulty call is the last one (`Breakdown`).  That is
kept by composition, since a procedure that has failed makes no more calls.
-/

namespace SampledKmeans

open Procedure

variable {σ ρ α β : Type}

/-! ## Faulty replies -/

/-- Why a reply is no answer of the operation, as a storage error. -/
inductive Reply.Fault (operation : String) (limit : Option Duration) (reply : Reply α) :
    Error → Prop where
  /-- The store has reported a storage error. -/
  | unavailable {name message : String} {attached : Option Checkpoint}
      (error : reply.outcome = .error (.storageUnavailable name message attached)) :
      Fault operation limit reply (.storageUnavailable name message attached)
  /-- The store has reported another error. -/
  | failed {cause : Error} (error : reply.outcome = .error cause)
      (other : ∀ name message attached, cause ≠ .storageUnavailable name message attached) :
      Fault operation limit reply (.storageUnavailable operation cause.message none)
  /-- The store has answered too late. -/
  | late {a : α} {allowed : Duration} (answer : reply.outcome = .ok a)
      (limited : limit = some allowed) (exceeded : allowed < reply.elapsed) :
      Fault operation limit reply
        (.storageUnavailable operation ("call exceeded timeout of " ++ allowed.text) none)

theorem Error.asUnavailable_of_other {operation : String} {error : Error}
    (h : ∀ name message attached, error ≠ .storageUnavailable name message attached) :
    error.asUnavailable operation = .storageUnavailable operation error.message none := by
  cases error with
  | storageUnavailable name message attached => exact absurd rfl (h name message attached)
  | _ => rfl

namespace Reply

variable {operation : String} {limit : Option Duration} {reply : Reply α} {error : Error}

theorem outcome_guarded_of_error {cause : Error} (h : reply.outcome = .error cause) :
    (reply.guarded operation limit).outcome = .error (cause.asUnavailable operation) := by
  unfold guarded within mapError
  rw [h]
  rfl

theorem outcome_guarded_of_late {a : α} {allowed : Duration} (h : reply.outcome = .ok a)
    (hlate : allowed < reply.elapsed) :
    (reply.guarded operation (some allowed)).outcome = .error (overrun operation allowed) := by
  unfold guarded within mapError
  rw [h]
  exact if_pos hlate

theorem outcome_guarded_eq_error_iff :
    (reply.guarded operation limit).outcome = .error error ↔
      reply.Fault operation limit error := by
  constructor
  · intro h
    cases houtcome : reply.outcome with
    | error cause =>
        rw [outcome_guarded_of_error houtcome] at h
        obtain rfl := Except.error.inj h
        cases cause with
        | storageUnavailable name message attached => exact .unavailable houtcome
        | _ => exact .failed houtcome (by simp)
    | ok a =>
        unfold guarded within mapError at h
        rw [houtcome] at h
        cases limit with
        | none => cases h
        | some allowed =>
            change (if allowed < reply.elapsed then _ else Except.ok a) = _ at h
            split_ifs at h with hlate
            exact Except.error.inj h ▸ .late houtcome rfl hlate
  · rintro (houtcome | ⟨houtcome, hother⟩ | ⟨houtcome, rfl, hlate⟩)
    · exact outcome_guarded_of_error houtcome
    · rw [outcome_guarded_of_error houtcome, Error.asUnavailable_of_other hother]
    · exact outcome_guarded_of_late houtcome hlate

/-- A fault is a storage error. -/
theorem Fault.exists_unavailable (h : reply.Fault operation limit error) :
    ∃ name message attached, error = .storageUnavailable name message attached := by
  cases h <;> exact ⟨_, _, _, rfl⟩

theorem exists_unavailable_of_guarded
    (h : (reply.guarded operation limit).outcome = .error error) :
    ∃ name message attached, error = .storageUnavailable name message attached :=
  (outcome_guarded_eq_error_iff.mp h).exists_unavailable

/-- The reply counts as an answer of the operation. -/
def IsFine (operation : String) (limit : Option Duration) (reply : Reply α) : Prop :=
  ∀ error, ¬ reply.Fault operation limit error

theorem IsFine.exists_answer (h : reply.IsFine operation limit) :
    ∃ a, reply.outcome = .ok a ∧ (reply.guarded operation limit).outcome = .ok a := by
  cases hguarded : (reply.guarded operation limit).outcome with
  | error error => exact absurd (outcome_guarded_eq_error_iff.mp hguarded) (h error)
  | ok a => exact ⟨a, outcome_of_guarded hguarded, rfl⟩

theorem isFine_of_outcome_guarded {a : α} (h : (reply.guarded operation limit).outcome = .ok a) :
    reply.IsFine operation limit := by
  intro error hfault
  rw [outcome_guarded_eq_error_iff.mpr hfault] at h
  cases h

/-- Without a limit no answer is late. -/
theorem isFine_of_outcome {a : α} (h : reply.outcome = .ok a) : reply.IsFine operation none := by
  refine isFine_of_outcome_guarded (a := a) ?_
  unfold guarded within mapError
  rw [h]
  rfl

/-! ## Means

That there was nothing to average is passed on as it is. -/

theorem outcome_of_guardedMean {reply : Reply SparseVector} {v : SparseVector}
    (h : (reply.guardedMean limit).outcome = .ok v) : reply.outcome = .ok v := by
  unfold guardedMean at h
  split at h
  · exact h
  · exact outcome_of_guarded h

theorem outcome_guardedMean_eq_error_iff {reply : Reply SparseVector} :
    (reply.guardedMean limit).outcome = .error error ↔
      reply.outcome = .error .emptyInput ∧ error = .emptyInput ∨
        reply.outcome ≠ .error .emptyInput ∧ reply.Fault "mean" limit error := by
  unfold guardedMean
  split
  · rename_i hempty
    simp [hempty, eq_comm]
  · rename_i hother
    rw [outcome_guarded_eq_error_iff]
    simp [show reply.outcome ≠ .error .emptyInput from hother]

theorem exists_unavailable_of_guardedMean {reply : Reply SparseVector}
    (h : (reply.guardedMean limit).outcome = .error error) :
    error = .emptyInput ∨
      ∃ name message attached, error = .storageUnavailable name message attached :=
  (outcome_guardedMean_eq_error_iff.mp h).imp And.right fun fault => fault.2.exists_unavailable

/-! ## Faulty items

Under a time limit a scan ends with its first faulty item. -/

theorem mem_untilFailure {items : List (Reply Point)} {item : Reply Point}
    (h : item ∈ untilFailure limit items) :
    ∃ source ∈ items, item = source.guarded "scan" limit := by
  induction items with
  | nil => cases h
  | cons first rest ih =>
      rw [untilFailure] at h
      split at h
      · rcases List.mem_cons.mp h with rfl | hrest
        · exact ⟨first, List.mem_cons_self, rfl⟩
        · obtain ⟨source, hmem, rfl⟩ := ih hrest
          exact ⟨source, List.mem_cons_of_mem _ hmem, rfl⟩
      · exact ⟨first, List.mem_cons_self, List.mem_singleton.mp h⟩

theorem untilFailure_append_of_fine {done rest : List (Reply Point)}
    (h : ∀ item ∈ done, item.IsFine "scan" limit) :
    untilFailure limit (done ++ rest) =
      done.map (guarded "scan" limit) ++ untilFailure limit rest := by
  induction done with
  | nil => rfl
  | cons item done ih =>
      obtain ⟨hitem, hdone⟩ := List.forall_mem_cons.mp h
      obtain ⟨p, -, hguarded⟩ := hitem.exists_answer
      simp only [List.cons_append, untilFailure, hguarded, ih hdone, List.map_cons]

theorem untilFailure_of_fine {items : List (Reply Point)}
    (h : ∀ item ∈ items, item.IsFine "scan" limit) :
    untilFailure limit items = items.map (guarded "scan" limit) := by
  have happend : untilFailure limit (items ++ []) = _ := untilFailure_append_of_fine h
  rwa [untilFailure, List.append_nil, List.append_nil] at happend

theorem untilFailure_cons_of_fault {item : Reply Point} {rest : List (Reply Point)}
    (h : item.Fault "scan" limit error) :
    untilFailure limit (item :: rest) = [item.guarded "scan" limit] := by
  simp only [untilFailure, outcome_guarded_eq_error_iff.mpr h]

end Reply

/-! ## Faulty calls -/

/-- Why a call is no answer.  Of the items of a scan the first one that is faulty
counts.  That there was nothing to average is the one error that is not reported
as a storage error. -/
inductive Call.Fault (limit : Option Duration) : Call → Error → Prop where
  | count {reply : Reply Nat} {error : Error} (fault : reply.Fault "count" limit error) :
      Fault limit (.count reply) error
  | sample {n : Nat} {reply : Reply (List Point)} {error : Error}
      (fault : reply.Fault "sample" limit error) : Fault limit (.sample n reply) error
  | scan {reply : Reply (List (Reply Point))} {error : Error}
      (fault : reply.Fault "scan" limit error) : Fault limit (.scan reply) error
  | item {reply : Reply (List (Reply Point))} {done rest : List (Reply Point)}
      {item : Reply Point} {error : Error} (opened : reply.IsFine "scan" limit)
      (items : reply.outcome = .ok (done ++ item :: rest))
      (fine : ∀ earlier ∈ done, earlier.IsFine "scan" limit)
      (fault : item.Fault "scan" limit error) : Fault limit (.scan reply) error
  | mean {positions : List SparseVector} {reply : Reply SparseVector} {error : Error}
      (other : reply.outcome ≠ .error .emptyInput) (fault : reply.Fault "mean" limit error) :
      Fault limit (.mean positions reply) error
  | meanOfNothing {positions : List SparseVector} {reply : Reply SparseVector}
      (empty : reply.outcome = .error .emptyInput) : Fault limit (.mean positions reply) .emptyInput

namespace Call

theorem fault_mean_iff {limit : Option Duration} {positions : List SparseVector}
    {reply : Reply SparseVector} {error : Error} :
    (Call.mean positions reply).Fault limit error ↔
      (reply.guardedMean limit).outcome = .error error := by
  rw [Reply.outcome_guardedMean_eq_error_iff]
  constructor
  · intro h
    cases h with
    | mean other fault => exact .inr ⟨other, fault⟩
    | meanOfNothing empty => exact .inl ⟨empty, rfl⟩
  · rintro (⟨hempty, rfl⟩ | ⟨hother, hfault⟩)
    · exact .meanOfNothing hempty
    · exact .mean hother hfault

/-- A fault is a storage error, or that there was nothing to average. -/
theorem Fault.eq_emptyInput_or_exists {limit : Option Duration} {call : Call} {error : Error}
    (h : call.Fault limit error) :
    error = .emptyInput ∨
      ∃ name message attached, error = .storageUnavailable name message attached := by
  cases h with
  | meanOfNothing => exact .inl rfl
  | count fault | sample fault | scan fault => exact .inr fault.exists_unavailable
  | item _ _ _ fault => exact .inr fault.exists_unavailable
  | mean _ fault => exact .inr fault.exists_unavailable

/-- The call was answered, and so was every item of a scan. -/
def IsFine (limit : Option Duration) (call : Call) : Prop :=
  ∀ error, ¬ call.Fault limit error

/-- The call is a scan with a faulty item, and a distance from one of the points
before that is not defined. -/
def EndsBefore (metric : SparseVector → SparseVector → Option Float) (limit : Option Duration)
    (call : Call) : Prop :=
  ∃ reply done item rest points, call = .scan reply ∧
    reply.outcome = .ok (done ++ item :: rest) ∧
    (∀ earlier ∈ done, earlier.IsFine "scan" limit) ∧ ¬ item.IsFine "scan" limit ∧
    List.Forall₂ (fun earlier point => earlier.outcome = .ok point) done points ∧
    ∃ p ∈ points, ∃ position, metric p.position position = none

/-- The failure shows the fault of the call.  The faulty item of a scan shows when
it is asked for, which is not the case when a distance from a point before it is
not defined. -/
def Surfaces (metric : SparseVector → SparseVector → Option Float) (limit : Option Duration)
    (shown : Error → Error) (call : Call) (failure : Failure) : Prop :=
  ∀ error, call.Fault limit error →
    failure = .error (shown error) ∨ failure = .outOfRange ∧ call.EndsBefore metric limit

end Call

/-! ## How calls break off -/

/-- How the calls of a failing procedure end: with a faulty call, or with several means
that overlap and of which one is faulty at least.  `overlapping` says that means can
overlap. -/
structure Breakdown (limit : Option Duration) (overlapping : Prop) where
  /-- The first faulty call. -/
  first : Call
  /-- The calls that take effect after it. -/
  beside : List Call
  /-- The call whose fault is reported. -/
  reported : Call
  first_faulty : ¬ first.IsFine limit
  beside_mean : ∀ call ∈ beside, overlapping ∧ first.operation = "mean" ∧ call.operation = "mean"
  reported_mem : reported ∈ first :: beside
  reported_faulty : ¬ reported.IsFine limit

namespace Breakdown

variable {limit : Option Duration} {overlapping : Prop}

/-- The calls from the first faulty one on. -/
def calls (breakdown : Breakdown limit overlapping) : List Call :=
  breakdown.first :: breakdown.beside

/-- A faulty call that is the last one. -/
def single (call : Call) (faulty : ¬ call.IsFine limit) : Breakdown limit overlapping where
  first := call
  beside := []
  reported := call
  first_faulty := faulty
  beside_mean := by simp
  reported_mem := List.mem_singleton_self call
  reported_faulty := faulty

/-- A call that is no mean is the last one, and so is any call where no means overlap. -/
theorem calls_eq_singleton (breakdown : Breakdown limit overlapping) {call : Call}
    (hmem : call ∈ breakdown.calls) (h : call.operation ≠ "mean" ∨ ¬ overlapping) :
    breakdown.calls = [call] ∧ breakdown.reported = call := by
  have hbeside : breakdown.beside = [] := by
    refine List.eq_nil_iff_forall_not_mem.mpr fun other hother => ?_
    obtain ⟨hoverlapping, hfirst, -⟩ := breakdown.beside_mean other hother
    rcases h with hkind | hnone
    · rcases List.mem_cons.mp hmem with rfl | hcall
      · exact hkind hfirst
      · exact hkind (breakdown.beside_mean call hcall).2.2
    · exact hnone hoverlapping
  have hreported := breakdown.reported_mem
  rw [calls, hbeside, List.mem_singleton] at hmem
  rw [hbeside, List.mem_singleton] at hreported
  rw [calls, hbeside, hreported, hmem]
  exact ⟨rfl, rfl⟩

theorem reported_mean (breakdown : Breakdown limit overlapping) {call : Call}
    (hmem : call ∈ breakdown.calls) (hmean : call.operation = "mean") :
    breakdown.reported.operation = "mean" := by
  have hfirst : breakdown.first.operation = "mean" := by
    rcases List.mem_cons.mp hmem with rfl | hcall
    · exact hmean
    · exact (breakdown.beside_mean call hcall).2.1
  rcases List.mem_cons.mp breakdown.reported_mem with heq | hreported
  · exact heq ▸ hfirst
  · exact (breakdown.beside_mean _ hreported).2.2

end Breakdown

/-- Some means, of which one is faulty and reported. -/
theorem exists_breakdown {limit : Option Duration} {overlapping : Prop} {calls : List Call}
    (hmean : ∀ call ∈ calls, call.operation = "mean") (hoverlapping : overlapping)
    {reported : Call} (hmem : reported ∈ calls) (hfaulty : ¬ reported.IsFine limit) :
    ∃ (earlier : List Call) (breakdown : Breakdown limit overlapping),
      calls = earlier ++ breakdown.calls ∧ (∀ call ∈ earlier, call.IsFine limit) ∧
        breakdown.reported = reported := by
  induction calls with
  | nil => cases hmem
  | cons call calls ih =>
      obtain ⟨hcall, hcalls⟩ := List.forall_mem_cons.mp hmean
      by_cases hfine : call.IsFine limit
      · have hrest : reported ∈ calls :=
          (List.mem_cons.mp hmem).resolve_left fun heq => hfaulty (heq ▸ hfine)
        obtain ⟨earlier, breakdown, rfl, hearlier, hreported⟩ := ih hcalls hrest
        exact ⟨call :: earlier, breakdown, rfl, List.forall_mem_cons.mpr ⟨hfine, hearlier⟩,
          hreported⟩
      · let breakdown : Breakdown limit overlapping := {
          first := call
          beside := calls
          reported := reported
          first_faulty := hfine
          beside_mean := fun other hother => ⟨hoverlapping, hcall, hcalls other hother⟩
          reported_mem := hmem
          reported_faulty := hfaulty }
        exact ⟨[], breakdown, rfl, by simp, rfl⟩

/-! ## Procedures that track the faults of their calls -/

namespace Procedure

/-- The calls of the procedure are fine, or they break off, and of the call that is
reported and the failure of the procedure `R` holds. -/
def Tracks (limit : Option Duration) (overlapping : Prop) (R : Call → Failure → Prop)
    (recorded : Procedure (Recorded σ) ρ α) (procedure : Procedure σ ρ α)
    (session : Session σ ρ) : Prop :=
  ∃ calls, recorded.Records procedure session calls ∧
    ((∀ call ∈ calls, call.IsFine limit) ∨
      ∃ (earlier : List Call) (breakdown : Breakdown limit overlapping) (failure : Failure)
          (after : Session σ ρ), calls = earlier ++ breakdown.calls ∧
        (∀ call ∈ earlier, call.IsFine limit) ∧ procedure.Fails session failure after ∧
        R breakdown.reported failure)

namespace Tracks

variable {limit : Option Duration} {overlapping : Prop} {R : Call → Failure → Prop}
  {recorded : Procedure (Recorded σ) ρ α} {procedure : Procedure σ ρ α}
  {next' : α → Procedure (Recorded σ) ρ β} {next : α → Procedure σ ρ β} {session : Session σ ρ}

theorem of_quiet (h : recorded.Quiet procedure) :
    Tracks limit overlapping R recorded procedure session :=
  ⟨[], h session, .inl (by simp)⟩

theorem imp {S : Call → Failure → Prop} (h : Tracks limit overlapping R recorded procedure session)
    (himp : ∀ call failure after, procedure.Fails session failure after → R call failure →
      S call failure) : Tracks limit overlapping S recorded procedure session := by
  obtain ⟨calls, hrecords, hfine | ⟨earlier, breakdown, failure, after, hcalls, hearlier, hfails,
    hR⟩⟩ := h
  · exact ⟨calls, hrecords, .inl hfine⟩
  · exact ⟨calls, hrecords,
      .inr ⟨earlier, breakdown, failure, after, hcalls, hearlier, hfails, himp _ _ _ hfails hR⟩⟩

theorem bind (h : Tracks limit overlapping R recorded procedure session)
    (hnext : ∀ a between, procedure.Answers session a between →
      Tracks limit overlapping R (next' a) (next a) between) :
    Tracks limit overlapping R (recorded >>= next') (procedure >>= next) session := by
  obtain ⟨calls, hrecords, hfine | ⟨earlier, breakdown, failure, after, hcalls, hearlier, hfails,
    hR⟩⟩ := h
  · -- All calls so far are fine, so that those of `next` decide, if it is reached.
    rcases answers_or_fails procedure session with ⟨a, between, hanswers⟩ | ⟨_, _, hfails⟩
    · obtain ⟨further, hfurther, hends⟩ := hnext a between hanswers
      refine ⟨calls ++ further, hrecords.bind_of_answers hanswers hfurther, ?_⟩
      rcases hends with hfine' | ⟨earlier, breakdown, failure, after, rfl, hearlier, hfails, hR⟩
      · exact .inl (List.forall_mem_append.mpr ⟨hfine, hfine'⟩)
      · refine .inr ⟨calls ++ earlier, breakdown, failure, after, (List.append_assoc ..).symm,
          List.forall_mem_append.mpr ⟨hfine, hearlier⟩, ?_, hR⟩
        exact fails_bind_iff.mpr (.inr ⟨a, between, hanswers, hfails⟩)
    · exact ⟨calls, hrecords.bind_of_fails hfails, .inl hfine⟩
  · exact ⟨calls, hrecords.bind_of_fails hfails, .inr ⟨earlier, breakdown, failure, after, hcalls,
      hearlier, fails_bind_iff.mpr (.inl hfails), hR⟩⟩

theorem mapM {f' : α → Procedure (Recorded σ) ρ β} {f : α → Procedure σ ρ β} {l : List α}
    (h : ∀ a ∈ l, ∀ session, Tracks limit overlapping R (f' a) (f a) session)
    (session : Session σ ρ) : Tracks limit overlapping R (l.mapM f') (l.mapM f) session := by
  induction l generalizing session with
  | nil => exact of_quiet (quiet_pure [])
  | cons a l ih =>
      obtain ⟨ha, hl⟩ := List.forall_mem_cons.mp h
      rw [List.mapM_cons, List.mapM_cons]
      exact (ha session).bind fun b between _ => (ih hl between).bind fun bs _ _ =>
        of_quiet (quiet_pure (b :: bs))

theorem checkpointed {metric : SparseVector → SparseVector → Option Float}
    {kind : Call → Prop} {checkpoint : Checkpoint}
    (h : Tracks limit overlapping
      (fun call failure => kind call ∧ call.Surfaces metric limit id failure)
      recorded procedure session) :
    Tracks limit overlapping (fun call failure => kind call ∧
        call.Surfaces metric limit (Error.withCheckpoint checkpoint) failure)
      (Procedure.checkpointed checkpoint recorded) (Procedure.checkpointed checkpoint procedure)
      session := by
  obtain ⟨calls, hrecords, hfine | ⟨earlier, breakdown, failure, after, hcalls, hearlier, hfails,
    hkind, hsurfaces⟩⟩ := h
  · exact ⟨calls, hrecords.checkpointed checkpoint, .inl hfine⟩
  · refine ⟨calls, hrecords.checkpointed checkpoint, .inr ⟨earlier, breakdown, _, after, hcalls,
      hearlier, fails_checkpointed_iff.mpr ⟨failure, hfails, rfl⟩, hkind, fun error hfault => ?_⟩⟩
    rcases hsurfaces error hfault with rfl | ⟨rfl, hbefore⟩
    · exact .inl rfl
    · exact .inr ⟨rfl, hbefore⟩

/-- A procedure that makes one call, and fails if that is faulty. -/
theorem of_call {metric : SparseVector → SparseVector → Option Float} {kind : Call → Prop}
    {call : Call} (hrecords : recorded.Records procedure session [call]) (hkind : kind call)
    (hfault : ∀ error, call.Fault limit error →
      ∃ failure after, procedure.Fails session failure after ∧
        (failure = .error error ∨ failure = .outOfRange ∧ call.EndsBefore metric limit)) :
    Tracks limit overlapping (fun call failure => kind call ∧ call.Surfaces metric limit id failure)
      recorded procedure session := by
  by_cases hfine : call.IsFine limit
  · exact ⟨[call], hrecords, .inl (List.forall_mem_singleton.mpr hfine)⟩
  · obtain ⟨error, herror⟩ := not_forall_not.mp hfine
    obtain ⟨failure, after, hfails, -⟩ := hfault error herror
    refine ⟨[call], hrecords, .inr ⟨[], .single call hfine, failure, after, rfl, by simp, hfails,
      hkind, ?_⟩⟩
    intro other hother
    -- A call may be faulty in more than one way, but it fails in one only.
    obtain ⟨failure', _, hfails', hshown⟩ := hfault other hother
    obtain rfl := Except.error.inj (hfails.outcome_eq.symm.trans hfails'.outcome_eq)
    exact hshown

end Tracks

end Procedure

/-! ## The calls of a store -/

namespace PointStore

variable {store : PointStore σ ρ} {limit : Option Duration} {overlapping : Prop}
  {session : Session σ ρ}

theorem tracks_askCount (kind : Call → Prop) (hkind : ∀ reply, kind (.count reply)) :
    Tracks limit overlapping
      (fun call failure => kind call ∧ call.Surfaces store.metric limit id failure)
      (store.recorded.timed limit).askCount (store.timed limit).askCount session := by
  refine .of_call (store.records_askCount limit session) (hkind _) fun error hfault => ?_
  cases hfault with
  | count fault =>
      have herror := Reply.outcome_guarded_eq_error_iff.mpr fault
      exact ⟨_, _, fails_call_iff.mpr ⟨error, herror, rfl, rfl⟩, .inl rfl⟩

theorem tracks_drawSample (kind : Call → Prop) (hkind : ∀ n reply, kind (.sample n reply))
    (n : Nat) :
    Tracks limit overlapping
      (fun call failure => kind call ∧ call.Surfaces store.metric limit id failure)
      ((store.recorded.timed limit).drawSample n) ((store.timed limit).drawSample n) session := by
  refine .of_call (store.records_drawSample limit session n) (hkind _ _) fun error hfault => ?_
  cases hfault with
  | sample fault =>
      have herror := Reply.outcome_guarded_eq_error_iff.mpr fault
      exact ⟨_, _, fails_callRandom_iff.mpr ⟨error, herror, rfl, rfl⟩, .inl rfl⟩

/-- The failure is that a distance from one of the points is not defined. -/
def Unmeasured (store : PointStore σ ρ) (points : List Point) (failure : Failure) : Prop :=
  failure = .outOfRange ∧ ∃ p ∈ points, ∃ position, store.metric p.position position = none

theorem Unmeasured.mono {points more : List Point} {failure : Failure}
    (h : store.Unmeasured points failure) (hsubset : points ⊆ more) :
    store.Unmeasured more failure := by
  obtain ⟨hfailure, p, hp, hmetric⟩ := h
  exact ⟨hfailure, p, hsubset hp, hmetric⟩

/-- The procedure fails with the error, unless a distance from one of the points is
not defined. -/
def Stops (store : PointStore σ ρ) (points : List Point) (error : Error)
    (procedure : Procedure σ ρ α) (session : Session σ ρ) : Prop :=
  ∃ failure after, procedure.Fails session failure after ∧
    (failure = .error error ∨ store.Unmeasured points failure)

theorem Stops.bind {points : List Point} {error : Error} {procedure : Procedure σ ρ α}
    (h : store.Stops points error procedure session) (next : α → Procedure σ ρ β) :
    store.Stops points error (procedure >>= next) session := by
  obtain ⟨failure, after, hfails, hshown⟩ := h
  exact ⟨failure, after, fails_bind_iff.mpr (.inl hfails), hshown⟩

/-- What reads the items of a scan fails with the first that is an error, unless
a distance from a point before it is not defined. -/
def Reads (store : PointStore σ ρ) (read : List (Reply Point) → Procedure σ ρ α) : Prop :=
  ∀ done points item error session,
    List.Forall₂ (fun (earlier : Reply Point) point => earlier.outcome = .ok point) done points →
    item.outcome = .error error → store.Stops points error (read (done ++ [item])) session

theorem Reads.bind {read : List (Reply Point) → Procedure σ ρ α} (h : store.Reads read)
    (next : α → Procedure σ ρ β) : store.Reads fun items => read items >>= next :=
  fun done points item error session hdone hitem =>
    (h done points item error session hdone hitem).bind next

theorem exists_points_of_fine {done : List (Reply Point)}
    (h : ∀ item ∈ done, item.IsFine "scan" limit) :
    ∃ points,
      List.Forall₂ (fun (item : Reply Point) point => item.outcome = .ok point) done points ∧
      List.Forall₂ (fun (item : Reply Point) point => item.outcome = .ok point)
        (done.map (Reply.guarded "scan" limit)) points := by
  induction done with
  | nil => exact ⟨[], .nil, .nil⟩
  | cons item done ih =>
      obtain ⟨hitem, hdone⟩ := List.forall_mem_cons.mp h
      obtain ⟨point, hpoint, hguarded⟩ := hitem.exists_answer
      obtain ⟨points, hpoints, hmap⟩ := ih hdone
      exact ⟨point :: points, .cons hpoint hpoints, .cons hguarded hmap⟩

theorem tracks_openScan {read' : List (Reply Point) → Procedure (Recorded σ) ρ α}
    {read : List (Reply Point) → Procedure σ ρ α} (kind : Call → Prop)
    (hkind : ∀ reply, kind (.scan reply))
    (hquiet : ∀ items, (read' items).Quiet (read items)) (hreads : store.Reads read) :
    Tracks limit overlapping
      (fun call failure => kind call ∧ call.Surfaces store.metric limit id failure)
      ((store.recorded.timed limit).openScan >>= read') ((store.timed limit).openScan >>= read)
      session := by
  have hrecords := (store.records_openScan limit session).bind_quiet hquiet
  refine .of_call hrecords (hkind _) fun error hfault => ?_
  cases hfault with
  | scan fault =>
      have herror := Reply.outcome_guarded_eq_error_iff.mpr fault
      exact ⟨_, _, fails_bind_iff.mpr (.inl (fails_call_iff.mpr
        ⟨error, timed_scan_eq_error_iff.mpr herror, rfl, rfl⟩)), .inl rfl⟩
  | @item _ done rest item _ opened items fine fault =>
      obtain ⟨inner, houtcome, hguarded⟩ := opened.exists_answer
      obtain rfl := Except.ok.inj (houtcome.symm.trans items)
      have hanswers := answers_call_iff.mpr ⟨timed_scan_eq_ok_iff.mpr ⟨_, hguarded, rfl⟩, rfl⟩
      rw [Reply.untilFailure_append_of_fine fine,
        Reply.untilFailure_cons_of_fault fault] at hanswers
      obtain ⟨points, hpoints, hmap⟩ := exists_points_of_fine fine
      obtain ⟨failure, after, hfails, hshown⟩ := hreads _ points _ error _ hmap
        (Reply.outcome_guarded_eq_error_iff.mpr fault)
      refine ⟨failure, after, fails_bind_iff.mpr (.inr ⟨_, _, hanswers, hfails⟩), ?_⟩
      exact hshown.imp_right fun ⟨hfailure, hmetric⟩ => ⟨hfailure, _, done, item, rest, points, rfl,
        items, fine, fun hfine => hfine error fault, hpoints, hmetric⟩

end PointStore

end SampledKmeans
