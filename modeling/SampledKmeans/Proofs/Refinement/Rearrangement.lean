import Mathlib.Data.List.FinRange
import Mathlib.Data.List.OfFn
import SampledKmeans.Proofs.Refinement.Replay

/-!
# Working sets in another order

The order of the working set has no part in a refinement, provided that it has none
in the mean of a cluster.  Two runs on the same points in different orders go
through the same states but for the labels, and these say of each point the same.

What two such runs have in common is `Progress.Alike`: in both, the label of a point
is one and the same function of the point.  The members of a cluster are then the
same positions in another order (`membersOf_perm`), and the labels have the same
counts.  An iteration keeps this (`Progress.Alike.advance`), and so does a run
(`Limits.Reaches.rearranged`).
-/

namespace SampledKmeans

open Procedure

/-! ## Labels that are a function of the points -/

section Labels

variable {working other : List Point} {label : Point → Nat}

theorem membersOf_map (points : List Point) (label : Point → Nat) (id : Nat) :
    membersOf points (points.map label) id =
      (points.filter fun point => label point = id).map Point.position := by
  induction points with
  | nil => rfl
  | cons point points ih =>
      have hcons : membersOf (point :: points) ((point :: points).map label) id =
          (if label point = id then [point.position] else []) ++
            membersOf points (points.map label) id := by
        by_cases h : label point = id <;> simp [membersOf, h]
      rw [hcons, ih]
      by_cases h : label point = id <;> simp [h]

theorem membersOf_perm (hperm : working.Perm other) (label : Point → Nat) (id : Nat) :
    (membersOf working (working.map label) id).Perm (membersOf other (other.map label) id) := by
  rw [membersOf_map, membersOf_map]
  exact (hperm.filter _).map Point.position

theorem labelCounts?_eq_of_perm {labels labels' : List Nat} (hperm : labels.Perm labels')
    (k : Nat) : labelCounts? labels k = labelCounts? labels' k := by
  have hrange : labelsInRange k labels = labelsInRange k labels' := hperm.all_eq
  simp only [labelCounts?, hrange, hperm.count_eq]

theorem deadIds_eq_of_perm {labels labels' : List Nat} (hperm : labels.Perm labels')
    (centroids : List Centroid) : deadIds labels centroids = deadIds labels' centroids := by
  simp only [deadIds, hperm.contains_eq]

/-- Whatever is assigned to a point depends on the point alone, so that points in
another order are assigned the same. -/
theorem PointStore.exists_label_of_labels? {σ ρ : Type} {store : PointStore σ ρ}
    {centroids : List Centroid} {labels : List Nat} (hperm : working.Perm other)
    (h : store.labels? working centroids = some labels) :
    ∃ label : Point → Nat, labels = working.map label ∧
      store.labels? other centroids = some (other.map label) := by
  let label : Point → Nat := fun point =>
    ((store.nearest? point.position centroids).map Prod.fst).getD 0
  have hforall := labels?_eq_some_iff.mp h
  have hlabels : labels = working.map label := by
    clear h hperm
    induction hforall with
    | nil => rfl
    | cons hnearest _ ih =>
        obtain ⟨distance, hnearest⟩ := hnearest
        simp [label, hnearest, ← ih]
  refine ⟨label, hlabels, labels?_eq_some_iff.mpr ?_⟩
  rw [List.forall₂_map_right_iff, List.forall₂_same]
  intro point hpoint
  obtain ⟨chosen, -, distance, hnearest⟩ :=
    exists_mem_right_of_forall₂ hforall (hperm.mem_iff.mpr hpoint)
  exact ⟨distance, by simp [label, hnearest]⟩

theorem PointStore.labels?_eq_none_of_perm {σ ρ : Type} {store : PointStore σ ρ}
    {centroids : List Centroid} (hperm : working.Perm other)
    (h : store.labels? working centroids = none) : store.labels? other centroids = none := by
  cases hother : store.labels? other centroids with
  | none => rfl
  | some labels =>
      obtain ⟨label, -, hworking⟩ := exists_label_of_labels? hperm.symm hother
      rw [h] at hworking
      cases hworking

end Labels

/-! ## One iteration -/

section Iterations

variable {σ ρ : Type} {store : PointStore σ ρ} {working other : List Point}
  {mean : List SparseVector → Except Error SparseVector} {progress progress' next : Progress}
  {session after : Session σ ρ}

/-- The mean does not depend on the order of the positions. -/
def OrderFree (mean : List SparseVector → Except Error SparseVector) : Prop :=
  ∀ positions positions', positions.Perm positions' → mean positions = mean positions'

theorem PointStore.HasMean.alike_recenter (hmean : store.HasMean mean) (hfree : OrderFree mean)
    (hperm : working.Perm other) (label : Point → Nat) (centroid : Centroid) :
    (store.recenter working (working.map label) centroid).Alike
      (store.recenter other (other.map label) centroid) := by
  have hmembers := membersOf_perm hperm label centroid.id
  rw [recenter_eq, recenter_eq]
  by_cases hnil : membersOf working (working.map label) centroid.id = []
  · have hnil' : membersOf other (other.map label) centroid.id = [] := by
      rw [hnil] at hmembers
      exact hmembers.symm.eq_nil
    rw [if_pos hnil, if_pos hnil']
    exact alike_pure centroid
  · have hnil' : membersOf other (other.map label) centroid.id ≠ [] := by
      intro heq
      rw [heq] at hmembers
      exact hnil hmembers.eq_nil
    rw [if_neg hnil, if_neg hnil']
    refine (alike_call fun first second => ?_).bind fun position => alike_pure _
    rw [hmean, hmean, hfree _ _ hmembers]

/-- Two states of refinements of the same points in different orders: they differ in
the labels only, and a point has the same label in both. -/
structure Progress.Alike (working other : List Point) (progress progress' : Progress) :
    Prop where
  rest_eq : progress' = { progress with labels := progress'.labels }
  labels : 0 < progress.iterations →
    ∃ label : Point → Nat, progress.labels = working.map label ∧
      progress'.labels = other.map label

theorem Progress.Alike.refl_start (working other : List Point) (seeds : List Centroid) :
    (Progress.start seeds).Alike working other (Progress.start seeds) where
  rest_eq := rfl
  labels h := absurd h (Nat.lt_irrefl 0)

theorem Progress.Alike.symm (h : progress.Alike working other progress') :
    progress'.Alike other working progress where
  rest_eq := by
    rw [h.rest_eq]
  labels hpos := by
    rw [h.rest_eq] at hpos
    obtain ⟨label, hlabels, hlabels'⟩ := h.labels hpos
    exact ⟨label, hlabels', hlabels⟩

/-- An iteration that succeeds on one order of the working set succeeds on any other
one, and makes states that are alike of states that are. -/
theorem Progress.Alike.advance (h : progress.Alike working other progress')
    (hperm : working.Perm other) (hmean : store.HasMean mean) (hfree : OrderFree mean)
    (hanswers : (progress.advance store working).Answers session next after)
    (session' : Session σ ρ) :
    ∃ next' after', (progress'.advance store other).Answers session' next' after' ∧
      next.Alike working other next' := by
  obtain ⟨labels, counts, centroids, hlabels, hcounts, hmeans, rfl⟩ :=
    answers_advance_iff.mp hanswers
  obtain ⟨label, rfl, hlabels'⟩ := PointStore.exists_label_of_labels? hperm hlabels
  have hsame := hperm.map label
  rw [labelCounts?_eq_of_perm hsame] at hcounts
  have halike := Procedure.Alike.mapM
    (hmean.alike_recenter hfree hperm label) progress.centroids
  obtain ⟨after', hmeans'⟩ := halike.answers hmeans (progress'.announced session')
  have hcentroids : progress'.centroids = progress.centroids := by rw [h.rest_eq]
  refine ⟨progress'.record other.length centroids (other.map label) counts, after', ?_, ?_⟩
  · apply answers_advance_iff.mpr
    rw [hcentroids]
    exact ⟨other.map label, counts, centroids, hlabels', hcounts, hmeans', rfl⟩
  · refine ⟨?_, fun _ => ⟨label, rfl, rfl⟩⟩
    rw [h.rest_eq, ← hperm.length_eq]
    simp only [record, deadIds_eq_of_perm hsame]

/-- An iteration that fails on one order of the working set fails in the same way on
any other one. -/
theorem Progress.Alike.fails (h : progress.Alike working other progress')
    (hperm : working.Perm other) (hmean : store.HasMean mean) (hfree : OrderFree mean)
    {failure : Failure} (hfails : (progress.advance store working).Fails session failure after)
    (session' : Session σ ρ) :
    ∃ after', (progress'.advance store other).Fails session' failure after' := by
  have hcentroids : progress'.centroids = progress.centroids := by rw [h.rest_eq]
  have hcheckpoint : progress'.checkpoint = progress.checkpoint := by
    rw [h.rest_eq]
    rfl
  rcases fails_advance_iff.mp hfails with ⟨hlabels, rfl, -⟩ | ⟨labels, hlabels,
    ⟨hcounts, rfl, -⟩ | ⟨counts, cause, hcounts, hmeans, rfl⟩⟩
  · refine ⟨_, fails_advance_iff.mpr (.inl ⟨?_, rfl, rfl⟩)⟩
    rw [hcentroids]
    exact PointStore.labels?_eq_none_of_perm hperm hlabels
  · obtain ⟨label, rfl, hlabels'⟩ := PointStore.exists_label_of_labels? hperm hlabels
    rw [labelCounts?_eq_of_perm (hperm.map label)] at hcounts
    rw [← hcentroids] at hlabels' hcounts
    exact ⟨_, fails_advance_iff.mpr (.inr ⟨_, hlabels', .inl ⟨hcounts, rfl, rfl⟩⟩)⟩
  · obtain ⟨label, rfl, hlabels'⟩ := PointStore.exists_label_of_labels? hperm hlabels
    rw [labelCounts?_eq_of_perm (hperm.map label)] at hcounts
    have halike := Procedure.Alike.mapM
      (hmean.alike_recenter hfree hperm label) progress.centroids
    obtain ⟨after', hmeans'⟩ := halike.fails hmeans (progress'.announced session')
    rw [← hcentroids] at hlabels' hcounts hmeans'
    exact ⟨after', fails_advance_iff.mpr
      (.inr ⟨_, hlabels', .inr ⟨counts, cause, hcounts, hmeans', by rw [hcheckpoint]⟩⟩)⟩

end Iterations

/-! ## Whole runs -/

/-- The signal of a caller who decides by the number of completed iterations. -/
def StopSignal.counting {σ : Type} (asks : Nat → Bool) : StopSignal σ :=
  fun iterations _ => asks iterations

/-- The elements of a list of `n` in another order: at each index stands what was at
the index that `order` gives. -/
def rearranged {α : Type} {n : Nat} (order : Equiv.Perm (Fin n)) (l : List α) : List α :=
  (List.finRange n).filterMap fun i => l[(order i : Nat)]?

theorem rearranged_map {α β : Type} {n : Nat} (order : Equiv.Perm (Fin n)) (f : α → β)
    (l : List α) : rearranged order (l.map f) = (rearranged order l).map f := by
  simp [rearranged, List.map_filterMap]

theorem rearranged_perm {α : Type} (l : List α) (order : Equiv.Perm (Fin l.length)) :
    (rearranged order l).Perm l := by
  have heq : rearranged order l = List.ofFn (l.get ∘ order) := by
    rw [List.ofFn_eq_map, rearranged, ← List.filterMap_eq_map]
    congr 1
    funext i
    simp
  rw [heq]
  simpa using order.ofFn_comp_perm l.get

namespace Limits

variable {σ ρ : Type} {store : PointStore σ ρ} {limits : Limits} {asks : Nat → Bool}
  {working other : List Point} {seeds : List Centroid}
  {mean : List SparseVector → Except Error SparseVector} {progress progress' : Progress}
  {session after : Session σ ρ}

theorem ending?_eq_of_alike (h : progress.Alike working other progress')
    (session session' : Session σ ρ) :
    limits.ending? (.counting asks) progress' session' =
      limits.ending? (.counting asks) progress session := by
  rw [h.rest_eq]
  rfl

theorem Reaches.rearranged
    (h : limits.Reaches store (.counting asks) working seeds session progress after)
    (hperm : working.Perm other) (hmean : store.HasMean mean) (hfree : OrderFree mean)
    (session' : Session σ ρ) :
    ∃ progress' after', limits.Reaches store (.counting asks) other seeds session' progress'
      after' ∧ progress.Alike working other progress' := by
  induction h with
  | start => exact ⟨_, session', .start, .refl_start working other seeds⟩
  | next _ hgoesOn hanswers ih =>
      obtain ⟨progress', between', hreaches', halike⟩ := ih
      obtain ⟨next', after', hanswers', hnext⟩ :=
        halike.advance hperm hmean hfree hanswers between'
      rw [← ending?_eq_of_alike halike _ between'] at hgoesOn
      exact ⟨next', after', hreaches'.next hgoesOn hanswers', hnext⟩

theorem Admits.rearranged (h : limits.Admits working seeds) (hperm : working.Perm other) :
    limits.Admits other seeds where
  working_ne_nil hnil := h.working_ne_nil (by rw [hnil] at hperm; exact hperm.eq_nil)
  seeds_ne_nil := h.seeds_ne_nil
  maxIterations_pos := h.maxIterations_pos
  ids_eq := h.ids_eq

/-- What refinement refuses does not depend on the order of the points. -/
theorem outcome_refine_of_not_admits {stop : StopSignal σ} (h : ¬ limits.Admits working seeds)
    (hperm : working.Perm other) (session' : Session σ ρ) :
    ∃ failure, (limits.refine store stop working seeds).outcome session = .error failure ∧
      (limits.refine store stop other seeds).outcome session' = .error failure := by
  unfold refine refineWith
  rw [← hperm.isEmpty_eq]
  split_ifs with hinput hmax hids
  · exact ⟨_, rfl, rfl⟩
  · exact ⟨_, rfl, rfl⟩
  · exact ⟨_, rfl, rfl⟩
  · rw [Bool.or_eq_true, not_or, List.isEmpty_iff, List.isEmpty_iff] at hinput
    exact absurd ⟨hinput.1, hinput.2, Nat.pos_of_ne_zero hmax, not_not.mp hids⟩ h

/-- Let distances and means be functions, and the mean one that does not depend on the
order of its arguments.  Then a refinement of a working set in another order answers
the same as that of the working set, with the labels in this other order, or it fails
in the same way.  Both are given the same seeds and the same limits, and a caller who
asks to stop does so after the same iterations. -/
theorem refine_rearranged (hmean : store.HasMean mean) (hfree : OrderFree mean)
    (limits : Limits) (asks : Nat → Bool) (working : List Point)
    (order : Equiv.Perm (Fin working.length)) (seeds : List Centroid)
    (session session' : Session σ ρ) :
    (limits.refine store (.counting asks) (rearranged order working)
        seeds).outcome session' =
      ((limits.refine store (.counting asks) working seeds).outcome session).map fun result =>
        { result with labels := rearranged order result.labels } := by
  have hperm := (rearranged_perm working order).symm
  by_cases hadmits : limits.Admits working seeds
  · have hadmits' := hadmits.rearranged hperm
    cases houtcome : (limits.refine store (.counting asks) working seeds).outcome session with
    | ok result =>
        obtain ⟨last, after, reason, hreaches, hending, rfl⟩ :=
          (outcome_refine_eq_ok_iff hadmits).mp houtcome
        obtain ⟨last', after', hreaches', halike⟩ :=
          hreaches.rearranged hperm hmean hfree session'
        rw [← ending?_eq_of_alike halike _ after'] at hending
        rw [hreaches'.outcome_refine_of_ending? hadmits' hending]
        have hpos := iterations_pos_of_ending? hreaches' hadmits.maxIterations_pos hending
        obtain ⟨label, hlabels', hlabels⟩ := halike.symm.labels hpos
        rw [halike.rest_eq, hlabels']
        change Except.ok _ = Except.ok _
        simp only [Progress.finish, hlabels, rearranged_map]
    | error failure =>
        obtain ⟨last, between, after, hreaches, hgoesOn, hfails⟩ :=
          (outcome_refine_eq_error_iff hadmits).mp houtcome
        obtain ⟨last', between', hreaches', halike⟩ :=
          hreaches.rearranged hperm hmean hfree session'
        obtain ⟨after', hfails'⟩ := halike.fails hperm hmean hfree hfails between'
        rw [← ending?_eq_of_alike halike _ between'] at hgoesOn
        rw [hreaches'.outcome_refine_of_fails hadmits' hgoesOn hfails']
        rfl
  · obtain ⟨failure, hfails, hfails'⟩ :=
      outcome_refine_of_not_admits hadmits hperm session'
    rw [hfails, hfails']
    rfl

/-- The mean of positions, which are first sorted into the order of a list. -/
def meanAlong (sorted positions : List SparseVector) : Except Error SparseVector :=
  meanOf (sorted.flatMap fun v => List.replicate (positions.count v) v)

theorem orderFree_meanAlong (sorted : List SparseVector) : OrderFree (meanAlong sorted) := by
  intro positions positions' hperm
  simp only [meanAlong, hperm.count_eq]

/-- The first and the last point change places, and the caller asks to stop after the
third iteration. -/
theorem refine_rearranged_onLine :
    let mean := meanAlong ([1.0, 2.0, 3.0, 8.0].map SparseVector.onLine)
    let store : PointStore Unit SplitMix := { Population.empty.store with
      mean := fun positions _ => ({ outcome := mean positions }, ()) }
    let session : Session Unit SplitMix := { store := (), random := {} }
    let asks : Nat → Bool := fun iterations => decide (3 ≤ iterations)
    let working := pointsOnLine [1.0, 2.0, 3.0, 8.0]
    let order : Equiv.Perm (Fin working.length) := Equiv.swap ⟨0, by decide⟩ ⟨3, by decide⟩
    let seeds := centroidsOnLine [1.0, 2.0, 50.0]
    store.HasMean mean ∧ OrderFree mean ∧
      (rearranged order working).map Point.id = [4, 2, 3, 1] ∧ ∃ result,
      (({} : Limits).refine store (.counting asks) working seeds).outcome session = .ok result ∧
        result.reason = .cancelled ∧ result.labels = [1, 1, 1, 2] ∧
        (({} : Limits).refine store (.counting asks) (rearranged order working) seeds).outcome
          session = .ok { result with labels := [2, 1, 1, 1] } := by
  intro mean store session asks working order seeds
  have hmean : store.HasMean mean := fun _ _ => rfl
  have hfree : OrderFree mean := orderFree_meanAlong _
  have hok : (({} : Limits).refine store (.counting asks) working seeds).outcome session = .ok {
      centroids := centroidsOnLine [2.0, 8.0, 50.0], labels := [1, 1, 1, 2], iterations := 3,
      reason := .cancelled, changeTrace := [0.5, 0.5], dead := [3] } := by
    decide +kernel
  have hother := refine_rearranged hmean hfree {} asks working order seeds session session
  rw [hok] at hother
  exact ⟨hmean, hfree, by decide +kernel, _, hok, rfl, rfl, hother⟩

end Limits

end SampledKmeans
