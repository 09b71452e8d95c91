import SampledKmeans.Store.Population
import SampledKmeans.Store.Timed
import SampledKmeans.Proofs.Procedure

/-!
# The points behind a store

A store `Holds` points when it counts and scans nothing else: its count is their
number, and a scan without a failing item yields them in order.  A call may
fail, and a scan may have items that do.  A population holds its points, and so
does every store that puts a time limit on one that holds them
(`Holds.timed`).
-/

namespace SampledKmeans

open Procedure

variable {σ ρ α : Type}

/-! ## Answers under a time limit -/

theorem Reply.outcome_of_guarded {operation : String} {limit : Option Duration} {reply : Reply α}
    {a : α} (h : (reply.guarded operation limit).outcome = .ok a) : reply.outcome = .ok a := by
  unfold guarded within mapError at h
  cases houtcome : reply.outcome with
  | error e =>
      rw [houtcome] at h
      cases h
  | ok b =>
      rw [houtcome] at h
      cases limit with
      | none => exact h
      | some limit =>
          change (if limit < reply.elapsed then _ else Except.ok b) = _ at h
          split_ifs at h
          exact h

namespace PointStore

/-! ## Scans without a failing item -/

theorem collect_cons_iff {item : Reply Point} {rest : List (Reply Point)} {points : List Point} :
    collect (item :: rest) = .ok points ↔
      ∃ point found, item.outcome = .ok point ∧ collect rest = .ok found ∧
        points = point :: found := by
  rw [collect]
  cases item.outcome with
  | error e => simp [bind, Except.bind]
  | ok point =>
      cases collect rest with
      | error e => simp [bind, Except.bind]
      | ok found => simp [bind, Except.bind, pure, Except.pure, eq_comm]

theorem collect_map_ok (points : List Point) : collect (points.map Reply.ok) = .ok points := by
  induction points with
  | nil => rfl
  | cons point points ih => exact collect_cons_iff.mpr ⟨point, points, rfl, ih, rfl⟩

/-- A time limit drops no item of a scan that comes to its end. -/
theorem collect_of_untilFailure {limit : Option Duration} {items : List (Reply Point)}
    {points : List Point} (h : collect (Reply.untilFailure limit items) = .ok points) :
    collect items = .ok points := by
  induction items generalizing points with
  | nil => exact h
  | cons item rest ih =>
      rw [Reply.untilFailure] at h
      split at h
      · obtain ⟨point, found, hitem, hrest, rfl⟩ := collect_cons_iff.mp h
        exact collect_cons_iff.mpr ⟨point, found, Reply.outcome_of_guarded hitem, ih hrest, rfl⟩
      · rename_i e herror
        obtain ⟨point, found, hitem, -, -⟩ := collect_cons_iff.mp h
        rw [herror] at hitem
        cases hitem

/-! ## Scans under a time limit -/

section TimedScan

variable {store : PointStore σ ρ} {limit : Option Duration} {state : σ}

theorem timed_scan_eq_ok_iff {items : List (Reply Point)} :
    ((store.timed limit).scan state).1.outcome = .ok items ↔
      ∃ inner, ((store.scan state).1.guarded "scan" limit).outcome = .ok inner ∧
        items = Reply.untilFailure limit inner := by
  change ((store.scan state).1.guarded "scan" limit).outcome.map _ = _ ↔ _
  cases ((store.scan state).1.guarded "scan" limit).outcome <;> simp [Except.map, eq_comm]

theorem timed_scan_eq_error_iff {error : Error} :
    ((store.timed limit).scan state).1.outcome = .error error ↔
      ((store.scan state).1.guarded "scan" limit).outcome = .error error := by
  change ((store.scan state).1.guarded "scan" limit).outcome.map _ = _ ↔ _
  cases ((store.scan state).1.guarded "scan" limit).outcome <;> simp [Except.map]

end TimedScan

/-! ## Stores that hold points -/

/-- Where the store counts and scans, it counts and scans these points. -/
structure Holds (store : PointStore σ ρ) (points : List Point) : Prop where
  count_eq : ∀ state n, (store.count state).1.outcome = .ok n → n = points.length
  scan_eq : ∀ state items found, (store.scan state).1.outcome = .ok items →
    collect items = .ok found → found = points

theorem Holds.timed {store : PointStore σ ρ} {points : List Point} (h : store.Holds points)
    (limit : Option Duration) : (store.timed limit).Holds points where
  count_eq state n hcount := h.count_eq state n (Reply.outcome_of_guarded hcount)
  scan_eq state items found hscan hcollect := by
    obtain ⟨inner, hguarded, rfl⟩ := timed_scan_eq_ok_iff.mp hscan
    exact h.scan_eq state inner found (Reply.outcome_of_guarded hguarded)
      (collect_of_untilFailure hcollect)

theorem holds_population [Sampler ρ] (population : Population) :
    (population.store : PointStore σ ρ).Holds population.points.toList where
  count_eq state n hcount := by
    cases hcount
    exact Array.length_toList.symm
  scan_eq state items found hscan hcollect := by
    cases hscan
    rw [collect_map_ok, Except.ok.injEq] at hcollect
    exact hcollect.symm

variable {store : PointStore σ ρ} {points found : List Point} {session after : Session σ ρ}

theorem Holds.eq_of_askCount (h : store.Holds points) {n : Nat}
    (hcount : store.askCount.Answers session n after) : n = points.length :=
  h.count_eq _ _ (answers_call_iff.mp hcount).1

theorem Holds.eq_of_openScan (h : store.Holds points) {items : List (Reply Point)}
    (hscan : store.openScan.Answers session items after) (hcollect : collect items = .ok found) :
    found = points :=
  h.scan_eq _ _ _ (answers_call_iff.mp hscan).1 hcollect

theorem Holds.eq_of_scanAll (h : store.Holds points)
    (hscan : store.scanAll.Answers session found after) : found = points := by
  obtain ⟨items, between, hopen, hcollect⟩ := answers_bind_iff.mp hscan
  exact h.eq_of_openScan hopen (answers_check_iff.mp hcollect).1

end PointStore

end SampledKmeans
