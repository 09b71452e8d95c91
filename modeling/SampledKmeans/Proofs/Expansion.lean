import SampledKmeans.Expansion
import SampledKmeans.Proofs.Nearest
import SampledKmeans.Proofs.Store.Scan

/-!
# Expansion in one pass

Reading a scan in blocks makes no difference: it succeeds when no item fails and
all points can be assigned, and its draft is that of adding the points one after
another (`answers_readBlocks_iff`).  An expansion therefore has one assignment
for each scanned point, in scan order and to its nearest centroid
(`PointStore.exists_scanned_of_expand`).  Whether a goodness of fit is made of the
distances is decided after the scan (`PointStore.expand_eq`).
-/

namespace SampledKmeans

open Procedure

variable {σ ρ : Type} {store : PointStore σ ρ} {centroids : List Centroid}
  {session after : Session σ ρ}

namespace Expansion

/-- Adds a point with its nearest centroid. -/
def Draft.addNearest? (store : PointStore σ ρ) (centroids : List Centroid) (state : Draft)
    (point : Point) : Option Draft :=
  (store.nearest? point.position centroids).map fun nearest => state.add (point, nearest)

theorem answers_assignBlock_iff {block : List Point} {state draft : Draft} :
    (assignBlock store centroids state block).Answers session draft after ↔
      block.foldlM (Draft.addNearest? store centroids) state = some draft ∧ after = session := by
  have hprocedure : assignBlock store centroids state block =
      expect ((block.mapM fun p => store.nearest? p.position centroids).map fun nearest =>
        (block.zip nearest).foldl Draft.add state) := by
    rw [expect_map, expect_mapM]
    unfold assignBlock
    simp only [PointStore.nearest_eq]
  have hfold : (block.mapM fun p => store.nearest? p.position centroids).map (fun nearest =>
      (block.zip nearest).foldl Draft.add state) =
        block.foldlM (Draft.addNearest? store centroids) state := by
    clear hprocedure
    induction block generalizing state with
    | nil => rfl
    | cons p block ih =>
        rw [List.foldlM_cons, List.mapM_cons, Draft.addNearest?]
        cases store.nearest? p.position centroids with
        | none => rfl
        | some nearest =>
            change _ = block.foldlM (Draft.addNearest? store centroids) (state.add (p, nearest))
            rw [← ih]
            cases block.mapM fun p => store.nearest? p.position centroids <;> rfl
  rw [hprocedure, hfold, answers_expect_iff]

/-- Reading in blocks adds the points of the scan to those that are pending, one
after another. -/
theorem answers_readBlocks_iff {items : List (Reply Point)} {pending : List Point} {room : Nat}
    {state draft : Draft} :
    (readBlocks store centroids items pending room state).Answers session draft after ↔
      ∃ points, PointStore.collect items = .ok points ∧
        (pending.reverse ++ points).foldlM (Draft.addNearest? store centroids) state = some draft ∧
        after = session := by
  induction items generalizing pending room state session with
  | nil =>
      rw [readBlocks, answers_assignBlock_iff]
      simp [PointStore.collect, eq_comm]
  | cons item rest ih =>
      cases room with
      | zero =>
          simp only [readBlocks, answers_bind_iff, answers_assignBlock_iff, answers_check_iff, ih,
            PointStore.collect_cons_iff]
          constructor
          · rintro ⟨middle, _, ⟨hpending, rfl⟩, point, _, ⟨hitem, rfl⟩, found, hrest, hdraft, rfl⟩
            refine ⟨_, ⟨point, found, hitem, hrest, rfl⟩, ?_, rfl⟩
            rw [List.foldlM_append, hpending]
            exact hdraft
          · rintro ⟨_, ⟨point, found, hitem, hrest, rfl⟩, hdraft, rfl⟩
            rw [List.foldlM_append] at hdraft
            obtain ⟨middle, hpending, hdraft⟩ := Option.bind_eq_some_iff.mp hdraft
            exact ⟨middle, _, ⟨hpending, rfl⟩, point, _, ⟨hitem, rfl⟩, found, hrest, hdraft, rfl⟩
      | succ room =>
          simp only [readBlocks, answers_bind_iff, answers_check_iff, ih,
            PointStore.collect_cons_iff, List.reverse_cons, List.append_assoc,
            List.singleton_append]
          constructor
          · rintro ⟨point, _, ⟨hitem, rfl⟩, found, hrest, hdraft, rfl⟩
            exact ⟨_, ⟨point, found, hitem, hrest, rfl⟩, hdraft, rfl⟩
          · rintro ⟨_, ⟨point, found, hitem, hrest, rfl⟩, hdraft, rfl⟩
            exact ⟨point, _, ⟨hitem, rfl⟩, found, hrest, hdraft, rfl⟩

/-- The assignment is that of the point to its nearest centroid. -/
def Nearest (store : PointStore σ ρ) (centroids : List Centroid) (point : Point)
    (assignment : Assignment) : Prop :=
  ∃ id d, store.nearest? point.position centroids = some (id, d) ∧ assignment = point.assignTo id

theorem forall₂_nearest_of_foldlM {points : List Point} {state draft : Draft}
    (h : points.foldlM (Draft.addNearest? store centroids) state = some draft) :
    ∃ added, draft.assignments.toList = state.assignments.toList ++ added ∧
      List.Forall₂ (Nearest store centroids) points added := by
  induction points generalizing state with
  | nil =>
      cases h
      exact ⟨[], (List.append_nil _).symm, .nil⟩
  | cons point points ih =>
      rw [List.foldlM_cons] at h
      obtain ⟨middle, hpoint, hrest⟩ := Option.bind_eq_some_iff.mp h
      obtain ⟨⟨id, d⟩, hnearest, rfl⟩ := Option.map_eq_some_iff.mp hpoint
      obtain ⟨added, hadded, hforall⟩ := ih hrest
      refine ⟨point.assignTo id :: added, ?_, .cons ⟨id, d, hnearest, rfl⟩ hforall⟩
      rw [hadded, Draft.add, Array.toList_push, List.append_assoc, List.singleton_append]

end Expansion

/-! ## What is made of the distances -/

/-- The assignment of a population before anything is made of the distances. -/
def PointStore.assignScan (store : PointStore σ ρ) (centroids : List Centroid) :
    Procedure σ ρ Expansion.Draft :=
  if centroids.isEmpty then
    fail (.invalidArgument .nothingToExpand)
  else do
    let items ← store.openScan
    Expansion.readBlocks store centroids items [] blockSize {}

/-- What is made of the distances. -/
def Expansion.Draft.finish (draft : Draft) (withFit : Bool) : Expansion where
  assignments := draft.assignments.toList
  fit := if withFit then draft.sum.mean? else none

theorem PointStore.expand_eq (withFit : Bool) :
    store.expand withFit centroids = do return (← store.assignScan centroids).finish withFit := by
  unfold PointStore.expand PointStore.assignScan
  by_cases hempty : centroids.isEmpty
  · rw [if_pos hempty, if_pos hempty]
    rfl
  · rw [if_neg hempty, if_neg hempty, bind_assoc]
    rfl

theorem PointStore.answers_expand {draft : Expansion.Draft}
    (h : (store.assignScan centroids).Answers session draft after) (withFit : Bool) :
    (store.expand withFit centroids).Answers session (draft.finish withFit) after := by
  rw [expand_eq, h.answers_bind_iff]
  exact answers_pure_iff.mpr ⟨rfl, rfl⟩

theorem PointStore.fails_expand {failure : Failure}
    (h : (store.assignScan centroids).Fails session failure after) (withFit : Bool) :
    (store.expand withFit centroids).Fails session failure after := by
  rw [expand_eq]
  exact h.bind

/-- An expansion assigns every scanned point to its nearest centroid, and has a
goodness of fit when that was asked for and there are points. -/
theorem PointStore.exists_scanned_of_expand {withFit : Bool} {expansion : Expansion}
    (h : (store.expand withFit centroids).Answers session expansion after) :
    centroids ≠ [] ∧ ∃ items opened scanned, store.openScan.Answers session items opened ∧
      collect items = .ok scanned ∧
      List.Forall₂ (Expansion.Nearest store centroids) scanned expansion.assignments ∧
      (scanned ≠ [] → expansion.fit.isSome = withFit) := by
  have hne : ¬ centroids.isEmpty = true := by
    intro hempty
    rw [PointStore.expand, if_pos hempty] at h
    exact not_answers_fail h
  rw [PointStore.expand, if_neg hne] at h
  simp only [answers_bind_iff, Expansion.answers_readBlocks_iff, answers_pure_iff] at h
  obtain ⟨items, _, hopen, draft, _, ⟨scanned, hcollect, hdraft, rfl⟩, rfl, rfl⟩ := h
  obtain ⟨added, hadded, hforall⟩ := Expansion.forall₂_nearest_of_foldlM hdraft
  have hassignments : draft.assignments.toList = added := hadded
  refine ⟨by simpa using hne, items, _, scanned, hopen, hcollect, hassignments ▸ hforall,
    fun hscanned => ?_⟩
  have hcount : draft.sum.count ≠ 0 := by
    change draft.assignments.size ≠ 0
    rw [← Array.length_toList, hassignments, ← hforall.length_eq]
    exact mt List.length_eq_zero_iff.mp hscanned
  cases withFit with
  | false => rfl
  | true =>
      change draft.sum.mean?.isSome = true
      rw [FitSum.mean?, if_neg hcount]
      rfl

/-- The scanned points are all that the store holds. -/
theorem PointStore.Holds.expansion {points : List Point} (h : store.Holds points)
    {withFit : Bool} {expansion : Expansion}
    (hexpand : (store.expand withFit centroids).Answers session expansion after) :
    centroids ≠ [] ∧ List.Forall₂ (Expansion.Nearest store centroids) points expansion.assignments ∧
      (points ≠ [] → expansion.fit.isSome = withFit) := by
  obtain ⟨hne, items, _, scanned, hopen, hcollect, hnearest, hfit⟩ :=
    exists_scanned_of_expand hexpand
  obtain rfl := h.eq_of_openScan hopen hcollect
  exact ⟨hne, hnearest, hfit⟩

end SampledKmeans
