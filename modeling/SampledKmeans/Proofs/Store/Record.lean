import SampledKmeans.Store.Recorded
import SampledKmeans.Store.Timed
import SampledKmeans.Proofs.Store.Lifting

/-!
# The calls that a store is given

A procedure does the same on a recorded store as on the store itself, and its calls
are added to the record (`Procedure.Records`).  The calls of composed procedures follow
one another; after a failure there are no more.

The lemmas are about stores behind a time limit, so that a record holds the
replies of the wrapped store, as they were before the limit was applied.
-/

namespace SampledKmeans

deriving instance DecidableEq for Reply
deriving instance DecidableEq for Call

variable {σ ρ α β : Type}

namespace Procedure

/-- From `session` on, a procedure on a recorded store does what another one
does on the store itself, and adds the calls to the record. -/
def Records (recorded : Procedure (Recorded σ) ρ α) (procedure : Procedure σ ρ α)
    (session : Session σ ρ) (calls : List Call) : Prop :=
  ∀ earlier, recorded.runIn (session.recording earlier) =
    ((procedure.runIn session).1, (procedure.runIn session).2.recording (earlier ++ calls))

/-- The procedure does the same on both stores and calls neither. -/
def Quiet (recorded : Procedure (Recorded σ) ρ α) (procedure : Procedure σ ρ α) : Prop :=
  ∀ session, recorded.Records procedure session []

variable {recorded : Procedure (Recorded σ) ρ α} {procedure : Procedure σ ρ α}
  {next' : α → Procedure (Recorded σ) ρ β} {next : α → Procedure σ ρ β}
  {session between after : Session σ ρ} {calls further : List Call}

/-! ## Composition -/

theorem Records.outcome_eq (h : recorded.Records procedure session calls) (earlier : List Call) :
    recorded.outcome (session.recording earlier) = procedure.outcome session :=
  congrArg Prod.fst (h earlier)

theorem Records.bind_of_answers (h : recorded.Records procedure session calls) {a : α}
    (hanswers : procedure.Answers session a between)
    (hnext : (next' a).Records (next a) between further) :
    (recorded >>= next').Records (procedure >>= next) session (calls ++ further) := by
  intro earlier
  rw [runIn_bind, runIn_bind, h earlier, hanswers.runIn_eq, ← List.append_assoc]
  exact hnext (earlier ++ calls)

theorem Records.bind_of_fails (h : recorded.Records procedure session calls) {failure : Failure}
    (hfails : procedure.Fails session failure after) :
    (recorded >>= next').Records (procedure >>= next) session calls := by
  intro earlier
  rw [runIn_bind, runIn_bind, h earlier, show procedure.runIn session = _ from hfails]

theorem Records.bind_quiet_of_answers (h : recorded.Records procedure session calls) {a : α}
    (hanswers : procedure.Answers session a between) (hnext : (next' a).Quiet (next a)) :
    (recorded >>= next').Records (procedure >>= next) session calls := by
  have hrecords := h.bind_of_answers hanswers (hnext between)
  rwa [List.append_nil] at hrecords

/-- What follows without calls adds nothing to the record, whether or not it is
reached. -/
theorem Records.bind_quiet (h : recorded.Records procedure session calls)
    (hnext : ∀ a, (next' a).Quiet (next a)) :
    (recorded >>= next').Records (procedure >>= next) session calls := by
  rcases answers_or_fails procedure session with ⟨a, between, hanswers⟩ | ⟨_, _, hfails⟩
  · exact h.bind_quiet_of_answers hanswers (hnext a)
  · exact h.bind_of_fails hfails

theorem Records.checkpointed (h : recorded.Records procedure session calls)
    (checkpoint : Checkpoint) :
    (Procedure.checkpointed checkpoint recorded).Records
      (Procedure.checkpointed checkpoint procedure) session calls := by
  intro earlier
  rw [runIn_checkpointed, runIn_checkpointed, h earlier]

/-! ## Procedures without calls -/

/-- A procedure makes no calls if it does not see which calls were made before. -/
theorem quiet_iff_lifts :
    recorded.Quiet procedure ↔
      ∀ earlier, Lifts (fun state => (⟨state, earlier⟩ : Recorded σ)) procedure recorded := by
  constructor
  · intro h earlier session
    have hrun := h session earlier
    rw [List.append_nil] at hrun
    exact hrun
  · intro h session earlier
    rw [List.append_nil]
    exact h earlier session

theorem quiet_pure (a : α) : (pure a : Procedure (Recorded σ) ρ α).Quiet (pure a) :=
  quiet_iff_lifts.mpr fun _ => lifts_pure a

theorem quiet_report (event : Event) :
    (report event : Procedure (Recorded σ) ρ Unit).Quiet (report event) :=
  quiet_iff_lifts.mpr fun _ => lifts_report event

theorem quiet_throw (failure : Failure) :
    (throw failure : Procedure (Recorded σ) ρ α).Quiet (throw failure) :=
  quiet_iff_lifts.mpr fun _ _ => rfl

theorem quiet_fail (error : Error) :
    (fail error : Procedure (Recorded σ) ρ α).Quiet (fail error) :=
  quiet_iff_lifts.mpr fun _ => lifts_fail error

theorem quiet_check (value : Except Error α) :
    (check value : Procedure (Recorded σ) ρ α).Quiet (check value) :=
  quiet_iff_lifts.mpr fun _ => lifts_check value

theorem quiet_expect (value : Option α) :
    (expect value : Procedure (Recorded σ) ρ α).Quiet (expect value) :=
  quiet_iff_lifts.mpr fun _ => lifts_expect value

theorem quiet_reserve (rows : Nat) :
    (reserve rows : Procedure (Recorded σ) ρ Unit).Quiet (reserve rows) :=
  quiet_iff_lifts.mpr fun _ => lifts_reserve rows

theorem quiet_draw (request : ρ → α × ρ) :
    (draw request : Procedure (Recorded σ) ρ α).Quiet (draw request) :=
  quiet_iff_lifts.mpr fun _ => lifts_draw request

theorem Quiet.bind (h : recorded.Quiet procedure) (hnext : ∀ a, (next' a).Quiet (next a)) :
    (recorded >>= next').Quiet (procedure >>= next) :=
  fun session => (h session).bind_quiet hnext

theorem Quiet.mapM {f' : α → Procedure (Recorded σ) ρ β} {f : α → Procedure σ ρ β}
    (h : ∀ a, (f' a).Quiet (f a)) (l : List α) : (l.mapM f').Quiet (l.mapM f) :=
  quiet_iff_lifts.mpr fun earlier => Lifts.mapM (fun a => quiet_iff_lifts.mp (h a) earlier) l

end Procedure

/-! ## Measuring makes no calls -/

namespace PointStore

open Procedure

variable (store : PointStore σ ρ) (limit : Option Duration)

theorem metric_recorded_timed : (store.recorded.timed limit).metric = (store.timed limit).metric :=
  rfl

theorem quiet_assign (points : List Point) (centroids : List Centroid) :
    ((store.recorded.timed limit).assign points centroids).Quiet
      ((store.timed limit).assign points centroids) :=
  quiet_iff_lifts.mpr fun _ => lifts_assign (store.metric_recorded_timed limit) points centroids

theorem quiet_minDistance (position : SparseVector) (centroids : List Centroid) :
    ((store.recorded.timed limit).minDistance position centroids).Quiet
      ((store.timed limit).minDistance position centroids) :=
  quiet_iff_lifts.mpr fun _ =>
    lifts_minDistance (store.metric_recorded_timed limit) position centroids

end PointStore

/-! ## Calls -/

namespace PointStore

open Procedure

variable (store : PointStore σ ρ) (limit : Option Duration) (session : Session σ ρ)

theorem records_askCount :
    (store.recorded.timed limit).askCount.Records (store.timed limit).askCount session
      [.count (store.count session.store).1] := by
  intro earlier
  rw [askCount, askCount, runIn_call, runIn_call]
  rfl

theorem records_drawSample (n : Nat) :
    ((store.recorded.timed limit).drawSample n).Records ((store.timed limit).drawSample n) session
      [.sample n (store.sample n session.random session.store).1] := by
  intro earlier
  rw [drawSample, drawSample, runIn_callRandom, runIn_callRandom]
  rfl

theorem records_openScan :
    (store.recorded.timed limit).openScan.Records (store.timed limit).openScan session
      [.scan (store.scan session.store).1] := by
  intro earlier
  rw [openScan, openScan, runIn_call, runIn_call]
  rfl

theorem records_askMean (positions : List SparseVector) :
    ((store.recorded.timed limit).askMean positions).Records
      ((store.timed limit).askMean positions) session
      [.mean positions (store.mean positions session.store).1] := by
  intro earlier
  rw [askMean, askMean, runIn_call, runIn_call]
  rfl

/-! ### Without a time limit -/

theorem records_plainSample (n : Nat) :
    (store.recorded.drawSample n).Records (store.drawSample n) session
      [.sample n (store.sample n session.random session.store).1] := by
  intro earlier
  rw [drawSample, drawSample, runIn_callRandom, runIn_callRandom]
  rfl

theorem records_plainScan :
    store.recorded.openScan.Records store.openScan session
      [.scan (store.scan session.store).1] := by
  intro earlier
  rw [openScan, openScan, runIn_call, runIn_call]
  rfl

end PointStore

end SampledKmeans
