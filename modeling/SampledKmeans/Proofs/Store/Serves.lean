import SampledKmeans.Expansion
import SampledKmeans.Proofs.Store.Fault
import SampledKmeans.Proofs.Procedure.Ensures

/-!
# What a store is relied on for

A store *serves* positions in `P` with failures in `E` when whatever it answers
with lies in `P`, and whatever keeps it from answering is one of `E`: a call that
fails, a failing item of a scan, a distance that is not defined, and an empty
answer where something was to be worked on.  The procedures that only measure
ensure as much.

Behind a time limit a store reports nothing but storage errors, apart from a
mean of nothing, so that it serves whatever positions it answers with, whichever
calls fail (`AnswersWithin.serves_timed`).
-/

namespace SampledKmeans

open Procedure

variable {σ ρ α : Type} {P : SparseVector → Prop} {E : Failure → Prop}

/-- The point of the item lies in `P`, or its error is one of `E`. -/
def Reply.Within (P : SparseVector → Prop) (E : Failure → Prop) (item : Reply Point) : Prop :=
  match item.outcome with
  | .ok point => P point.position
  | .error error => E (.error error)

theorem Reply.Within.ensures_check {item : Reply Point} (h : item.Within P E) :
    Ensures E (check item.outcome : Procedure σ ρ Point) fun point => P point.position := by
  unfold Within at h
  cases houtcome : item.outcome with
  | ok point =>
      rw [houtcome] at h
      exact ensures_pure h
  | error error =>
      rw [houtcome] at h
      exact ensures_fail h

namespace PointStore

/-! ## Measuring -/

section Measuring

variable {store : PointStore σ ρ} {position : SparseVector} {centroids : List Centroid}

theorem ensures_measureAll
    (h : ∀ c ∈ centroids, store.metric position c.position = none → E .outOfRange) :
    Ensures E (store.measureAll position centroids) fun _ => True := by
  refine (Ensures.mapM (R := fun _ => True) fun c hc => ?_).imp fun _ _ => trivial
  exact (ensures_expect (h c hc)).bind fun _ _ => ensures_pure trivial

theorem ensures_nearest
    (h : ∀ c ∈ centroids, store.metric position c.position = none → E .outOfRange) :
    Ensures E (store.nearest position centroids) fun _ => True :=
  (ensures_measureAll h).bind fun _ _ => ensures_pure trivial

theorem ensures_minDistance
    (h : ∀ c ∈ centroids, store.metric position c.position = none → E .outOfRange) :
    Ensures E (store.minDistance position centroids) fun _ => True :=
  (ensures_measureAll h).bind fun _ _ => ensures_pure trivial

theorem ensures_assign {points : List Point} (h : ∀ p ∈ points, ∀ c ∈ centroids,
      store.metric p.position c.position = none → E .outOfRange) :
    Ensures E (store.assign points centroids) fun _ => True := by
  refine (Ensures.mapM (R := fun _ => True) fun p hp => ?_).imp fun _ _ => trivial
  exact (ensures_nearest (h p hp)).bind fun _ _ => ensures_pure trivial

end Measuring

end PointStore

theorem Expansion.ensures_assignBlock {store : PointStore σ ρ} {centroids : List Centroid}
    {block : List Point} (h : ∀ p ∈ block, ∀ c ∈ centroids,
      store.metric p.position c.position = none → E .outOfRange) (state : Draft) :
    Ensures E (assignBlock store centroids state block) fun _ => True :=
  (Ensures.mapM (R := fun _ => True) fun p hp => PointStore.ensures_nearest (h p hp)).bind
    fun _ _ => ensures_pure trivial

namespace PointStore

/-! ## Stores that serve -/

/-- Whatever the store answers with lies in `P`, and whatever keeps it from
answering is one of `E`. -/
structure Serves (store : PointStore σ ρ) (P : SparseVector → Prop) (E : Failure → Prop) :
    Prop where
  sample : ∀ n, 0 < n → Ensures E (store.drawSample n) fun points =>
    (∀ p ∈ points, P p.position) ∧ (points = [] → E (.error .emptyInput))
  scan : Ensures E store.openScan fun items =>
    (∀ item ∈ items, item.Within P E) ∧ (items = [] → E (.error .emptyInput))
  mean : ∀ positions, positions ≠ [] → (∀ v ∈ positions, P v) →
    Ensures E (store.askMean positions) P
  metric : ∀ a b, P a → P b → store.metric a b = none → E .outOfRange
  /-- A checkpoint makes no difference to `E`. -/
  checkpoint : ∀ checkpoint failure, E failure →
    E (failure.mapError (Error.withCheckpoint checkpoint))

/-- As `Serves`, for procedures that ask for no mean. -/
structure Supplies (store : PointStore σ ρ) (P : SparseVector → Prop) (E : Failure → Prop) :
    Prop where
  sample : ∀ n, 0 < n → Ensures E (store.drawSample n) fun points =>
    (∀ p ∈ points, P p.position) ∧ (points = [] → E (.error .emptyInput))
  scan : Ensures E store.openScan fun items =>
    (∀ item ∈ items, item.Within P E) ∧ (items = [] → E (.error .emptyInput))
  metric : ∀ a b, P a → P b → store.metric a b = none → E .outOfRange

/-- Distances between supplied positions are defined, or `E` allows for that. -/
theorem Supplies.metric_of_mem {store : PointStore σ ρ} (h : store.Supplies P E)
    {position : SparseVector} {centroids : List Centroid} (hposition : P position)
    (hcentroids : ∀ c ∈ centroids, P c.position) :
    ∀ c ∈ centroids, store.metric position c.position = none → E .outOfRange :=
  fun c hc => h.metric _ _ hposition (hcentroids c hc)

namespace Serves

variable {store : PointStore σ ρ}

theorem supplies (h : store.Serves P E) : store.Supplies P E :=
  ⟨h.sample, h.scan, h.metric⟩

theorem metric_of_mem (h : store.Serves P E) {position : SparseVector} {centroids : List Centroid}
    (hposition : P position) (hcentroids : ∀ c ∈ centroids, P c.position) :
    ∀ c ∈ centroids, store.metric position c.position = none → E .outOfRange :=
  h.supplies.metric_of_mem hposition hcentroids

theorem ensures_collect {items : List (Reply Point)} (hitems : ∀ item ∈ items, item.Within P E) :
    Ensures E (check (collect items) : Procedure σ ρ (List Point)) fun points =>
      (∀ p ∈ points, P p.position) ∧ points.length = items.length := by
  induction items with
  | nil => exact ensures_pure ⟨by simp, rfl⟩
  | cons item rest ih =>
      obtain ⟨hitem, hrest⟩ := List.forall_mem_cons.mp hitems
      have heq : (check (collect (item :: rest)) : Procedure σ ρ (List Point)) = (do
          let point ← check item.outcome
          let points ← check (collect rest)
          return point :: points) := by
        rw [collect]
        cases item.outcome with
        | error e => rfl
        | ok point => cases collect rest <;> rfl
      rw [heq]
      refine (hitem.ensures_check).bind fun point hpoint => (ih hrest).bind fun points hpoints => ?_
      exact ensures_pure ⟨List.forall_mem_cons.mpr ⟨hpoint, hpoints.1⟩, by simp [hpoints.2]⟩

/-- A scan from end to end. -/
theorem ensures_scanAll (h : store.Serves P E) :
    Ensures E store.scanAll fun points =>
      (∀ p ∈ points, P p.position) ∧ (points = [] → E (.error .emptyInput)) := by
  refine h.scan.bind fun items hitems => (ensures_collect hitems.1).imp fun points hpoints => ?_
  refine ⟨hpoints.1, fun hnil => hitems.2 (List.length_eq_zero_iff.mp ?_)⟩
  rw [← hpoints.2, hnil, List.length_nil]

end Serves

/-! ## Stores behind a time limit -/

/-- Whatever the store answers with lies in `P`. -/
structure AnswersWithin (store : PointStore σ ρ) (P : SparseVector → Prop) : Prop where
  sample : ∀ n source state points, (store.sample n source state).1.outcome = .ok points →
    ∀ p ∈ points, P p.position
  scan : ∀ state items, (store.scan state).1.outcome = .ok items →
    ∀ item ∈ items, ∀ p, item.outcome = .ok p → P p.position
  mean : ∀ positions state v, (∀ u ∈ positions, P u) →
    (store.mean positions state).1.outcome = .ok v → P v

end PointStore

/-- Behind a time limit a store fails with storage errors, and when there is
nothing to work on. -/
theorem PointStore.AnswersWithin.serves_timed {store : PointStore σ ρ}
    (h : store.AnswersWithin P) (limit : Option Duration)
    (hmetric : ∀ a b, P a → P b → store.metric a b = none → E .outOfRange)
    (hunavailable : ∀ operation message checkpoint,
      E (.error (.storageUnavailable operation message checkpoint)))
    (hempty : E (.error .emptyInput))
    (hcheckpoint : ∀ checkpoint failure, E failure →
      E (failure.mapError (Error.withCheckpoint checkpoint))) :
    (store.timed limit).Serves P E where
  sample n _ := by
    refine ensures_callRandom (fun source state points hok => ⟨?_, fun _ => hempty⟩)
      fun source state error herror => ?_
    · exact h.sample n source state points (Reply.outcome_of_guarded hok)
    · obtain ⟨_, _, _, rfl⟩ := Reply.exists_unavailable_of_guarded herror
      exact hunavailable _ _ _
  scan := by
    refine ensures_call (fun state items hok => ⟨fun item hitem => ?_, fun _ => hempty⟩)
      fun state error herror => ?_
    · obtain ⟨inner, hopened, rfl⟩ := timed_scan_eq_ok_iff.mp hok
      obtain ⟨source, hsource, rfl⟩ := Reply.mem_untilFailure hitem
      unfold Reply.Within
      cases houtcome : (source.guarded "scan" limit).outcome with
      | ok point =>
          exact h.scan state inner (Reply.outcome_of_guarded hopened) source hsource point
            (Reply.outcome_of_guarded houtcome)
      | error e =>
          obtain ⟨_, _, _, rfl⟩ := Reply.exists_unavailable_of_guarded houtcome
          exact hunavailable _ _ _
    · obtain ⟨_, _, _, rfl⟩ :=
        Reply.exists_unavailable_of_guarded (timed_scan_eq_error_iff.mp herror)
      exact hunavailable _ _ _
  mean positions _ hpositions := by
    refine ensures_call (fun state v hok => ?_) fun state error herror => ?_
    · exact h.mean positions state v hpositions (Reply.outcome_of_guardedMean hok)
    · rcases Reply.exists_unavailable_of_guardedMean herror with rfl | ⟨_, _, _, rfl⟩
      · exact hempty
      · exact hunavailable _ _ _
  metric := hmetric
  checkpoint := hcheckpoint

end SampledKmeans
