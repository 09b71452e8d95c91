import SampledKmeans.Proofs.Expansion
import SampledKmeans.Proofs.Nearest.First

/-!
# Expansion as one pass

Blocks are how a scan is read, not what comes of it.  Wherever in a block the reading
stands, the rest of the scan is read to the same end: the points that are pending and
those that follow are added one after another, or the first failing item is the failure
(`runIn_readBlocks`).  The pending points and the room that is left are part of that
statement, which is what carries it over the end of a block.

An expansion is therefore a map over the points with one sum beside it, `plain`, and
it asks the store for nothing but its scan (`PointStore.runIn_expand`).
-/

namespace SampledKmeans

open Procedure

variable {σ ρ : Type} {store : PointStore σ ρ} {centroids : List Centroid}
  {distance : SparseVector → SparseVector → Float} {session opened : Session σ ρ}
  {items : List (Reply Point)}

/-! ## The items of a scan -/

namespace PointStore

/-- The store measures the distances from every point of a scan to the centroids, and
they are those that the function says. -/
def MeasuresScan (store : PointStore σ ρ) (distance : SparseVector → SparseVector → Float)
    (items : List (Reply Point)) (centroids : List Centroid) : Prop :=
  ∀ item ∈ items, ∀ p, item.outcome = .ok p → store.Measures distance p.position centroids

theorem MeasuresScan.of_mem (h : store.MeasuresScan distance items centroids)
    {points : List Point} (hpoints : items.map Reply.outcome = points.map .ok) {p : Point}
    (hp : p ∈ points) : store.Measures distance p.position centroids := by
  have hmem : Except.ok p ∈ items.map Reply.outcome := hpoints ▸ List.mem_map_of_mem hp
  obtain ⟨item, hitem, hok⟩ := List.mem_map.mp hmem
  exact h item hitem p hok

theorem collect_eq_ok_iff {points : List Point} :
    collect items = .ok points ↔ items.map Reply.outcome = points.map .ok := by
  induction items generalizing points with
  | nil => cases points <;> simp [collect]
  | cons item rest ih =>
      rw [collect_cons_iff]
      cases points with
      | nil => simp
      | cons point points => simp [← ih]

/-- A scan that is not collected has a first failing item, after points only. -/
theorem exists_first_of_collect {error : Error} (h : collect items = .error error) :
    ∃ (points : List Point) (rest : List (Except Error Point)),
      items.map Reply.outcome = points.map .ok ++ .error error :: rest := by
  induction items with
  | nil => cases h
  | cons item rest ih =>
      rw [collect] at h
      rw [List.map_cons]
      cases houtcome : item.outcome with
      | error e =>
          rw [houtcome] at h
          cases h
          exact ⟨[], rest.map Reply.outcome, rfl⟩
      | ok point =>
          cases hrest : collect rest with
          | ok found =>
              rw [houtcome, hrest] at h
              cases h
          | error e =>
              rw [houtcome, hrest] at h
              cases h
              obtain ⟨points, behind, hsplit⟩ := ih hrest
              exact ⟨point :: points, behind, by rw [hsplit, List.map_cons, List.cons_append]⟩

end PointStore

namespace Expansion

/-! ## Blocks -/

/-- Adds a point with the nearest centroid by a distance. -/
def Draft.addBy (distance : SparseVector → SparseVector → Float) (centroids : List Centroid)
    (state : Draft) (point : Point) : Draft :=
  state.add (point, nearestBy distance point.position centroids)

theorem foldlM_addNearest? {block : List Point} {state : Draft}
    (h : ∀ p ∈ block, store.Measures distance p.position centroids) :
    block.foldlM (Draft.addNearest? store centroids) state =
      some (block.foldl (Draft.addBy distance centroids) state) := by
  induction block generalizing state with
  | nil => rfl
  | cons p block ih =>
      obtain ⟨hp, hblock⟩ := List.forall_mem_cons.mp h
      rw [List.foldlM_cons, Draft.addNearest?, hp.nearest?_eq, Option.map_some, List.foldl_cons,
        Draft.addBy, ← ih hblock]
      rfl

theorem runIn_assignBlock {pending : List Point}
    (h : ∀ p ∈ pending, store.Measures distance p.position centroids) (state : Draft) :
    (assignBlock store centroids state pending.reverse).runIn session =
      (.ok (pending.reverse.foldl (Draft.addBy distance centroids) state), session) := by
  have hreversed : ∀ p ∈ pending.reverse, store.Measures distance p.position centroids :=
    fun p hp => h p (List.mem_reverse.mp hp)
  exact (answers_assignBlock_iff.mpr ⟨foldlM_addNearest? hreversed, rfl⟩).runIn_eq

/-- Adds the points of a scan to a draft, or fails with the first failing item. -/
def Draft.addScanned (distance : SparseVector → SparseVector → Float) (centroids : List Centroid)
    (state : Draft) (items : List (Reply Point)) : Except Failure Draft :=
  match PointStore.collect items with
  | .ok points => .ok (points.foldl (Draft.addBy distance centroids) state)
  | .error error => .error (.error error)

theorem addScanned_cons_ok {item : Reply Point} {point : Point} (h : item.outcome = .ok point)
    (state : Draft) (rest : List (Reply Point)) :
    state.addScanned distance centroids (item :: rest) =
      (state.addBy distance centroids point).addScanned distance centroids rest := by
  rw [Draft.addScanned, Draft.addScanned, PointStore.collect, h]
  cases PointStore.collect rest <;> rfl

theorem addScanned_cons_error {item : Reply Point} {error : Error} (h : item.outcome = .error error)
    (state : Draft) (rest : List (Reply Point)) :
    state.addScanned distance centroids (item :: rest) = .error (.error error) := by
  rw [Draft.addScanned, PointStore.collect, h]
  rfl

theorem runIn_readBlocks {pending : List Point} (room : Nat) (state : Draft)
    (hpending : ∀ p ∈ pending, store.Measures distance p.position centroids)
    (hitems : store.MeasuresScan distance items centroids) :
    (readBlocks store centroids items pending room state).runIn session =
      ((pending.reverse.foldl (Draft.addBy distance centroids) state).addScanned distance centroids
        items, session) := by
  induction items generalizing pending room state session with
  | nil =>
      rw [readBlocks, runIn_assignBlock hpending]
      rfl
  | cons item rest ih =>
      obtain ⟨hitem, hrest⟩ := List.forall_mem_cons.mp hitems
      cases room with
      | zero =>
          -- The block is full and is assigned before the item is looked at.
          rw [readBlocks, runIn_bind, runIn_assignBlock hpending]
          dsimp only
          cases houtcome : item.outcome with
          | error e =>
              rw [addScanned_cons_error houtcome]
              rfl
          | ok point =>
              rw [addScanned_cons_ok houtcome]
              change (readBlocks store centroids rest [point] _ _).runIn session = _
              rw [ih _ _ (List.forall_mem_singleton.mpr (hitem point houtcome)) hrest]
              rfl
      | succ room =>
          rw [readBlocks]
          cases houtcome : item.outcome with
          | error e =>
              rw [addScanned_cons_error houtcome]
              rfl
          | ok point =>
              rw [addScanned_cons_ok houtcome]
              change (readBlocks store centroids rest (point :: pending) _ _).runIn session = _
              rw [ih _ _ (List.forall_mem_cons.mpr ⟨hitem point houtcome, hpending⟩) hrest,
                List.reverse_cons, List.foldl_append]
              rfl

/-! ## What the points come to -/

theorem toList_assignments_foldl (points : List Point) (state : Draft) :
    (points.foldl (Draft.addBy distance centroids) state).assignments.toList =
      state.assignments.toList ++
        points.map fun p => p.assignTo (nearestBy distance p.position centroids).1 := by
  induction points generalizing state with
  | nil => simp
  | cons p points ih =>
      rw [List.foldl_cons, ih, Draft.addBy, Draft.add, Array.toList_push, List.append_assoc,
        List.singleton_append, List.map_cons]

theorem total_foldl (points : List Point) (state : Draft) :
    (points.foldl (Draft.addBy distance centroids) state).total =
      (points.map fun p => (nearestBy distance p.position centroids).2).foldl (· + ·)
        state.total := by
  induction points generalizing state with
  | nil => rfl
  | cons p points ih =>
      rw [List.foldl_cons, ih, Draft.addBy, Draft.add, List.map_cons, List.foldl_cons]

/-- The expansion of points by a distance: every point is assigned to its nearest
centroid, and the distances to those are added from left to right and divided by their
number. -/
def plain (distance : SparseVector → SparseVector → Float) (centroids : List Centroid)
    (withFit : Bool) (points : List Point) : Expansion where
  assignments := points.map fun p => p.assignTo (nearestBy distance p.position centroids).1
  fit :=
    if withFit = true ∧ points ≠ [] then
      some ((points.map fun p => (nearestBy distance p.position centroids).2).foldl (· + ·) 0.0 /
        Float.ofNat points.length)
    else none

theorem finish_foldl (withFit : Bool) (points : List Point) :
    (points.foldl (Draft.addBy distance centroids) {}).finish withFit =
      plain distance centroids withFit points := by
  have hcount : (points.foldl (Draft.addBy distance centroids) {}).sum.count = points.length := by
    rw [Draft.sum, ← Array.length_toList, toList_assignments_foldl]
    simp
  rw [Draft.finish, toList_assignments_foldl, FitSum.mean?, hcount, Draft.sum, total_foldl, plain]
  cases withFit <;> cases points <;> simp

end Expansion

namespace PointStore

theorem runIn_expand (hne : centroids ≠ []) (hopen : store.openScan.Answers session items opened)
    (hmeasures : store.MeasuresScan distance items centroids) (withFit : Bool) :
    (store.expand withFit centroids).runIn session =
      (match collect items with
        | .ok points => .ok (Expansion.plain distance centroids withFit points)
        | .error error => .error (.error error), opened) := by
  have hread : (Expansion.readBlocks store centroids items [] blockSize {}).runIn opened =
      (({} : Expansion.Draft).addScanned distance centroids items, opened) :=
    Expansion.runIn_readBlocks blockSize {} (List.forall_mem_nil _) hmeasures
  rw [expand_eq, runIn_bind, assignScan, if_neg (by simpa using hne), hopen.runIn_bind, hread,
    Expansion.Draft.addScanned]
  cases collect items with
  | error error => rfl
  | ok points =>
      dsimp only
      rw [Expansion.finish_foldl]
      rfl

/-- Whatever a scan holds, points and failing items in any order: an expansion makes
this one scan and asks nothing else of the store.  Without a failing item it answers
the expansion of the points in one pass, in which each of them goes to its nearest
centroid, and otherwise it fails as the first failing item does. -/
theorem expand_onePass (hne : centroids ≠ [])
    (hopen : store.openScan.Answers session items opened)
    (hmeasures : store.MeasuresScan distance items centroids) (withFit : Bool) :
    (∃ points : List Point, items.map Reply.outcome = points.map .ok ∧
      (∀ p ∈ points, ∀ session, (store.nearest p.position centroids).Answers session
        (nearestBy distance p.position centroids) session) ∧
      (store.expand withFit centroids).Answers session
        (Expansion.plain distance centroids withFit points) opened) ∨
    ∃ (points : List Point) (error : Error) (rest : List (Except Error Point)),
      items.map Reply.outcome = points.map .ok ++ .error error :: rest ∧
      (store.expand withFit centroids).Fails session (.error error) opened := by
  have hrun := runIn_expand hne hopen hmeasures withFit
  cases hcollect : collect items with
  | ok points =>
      have houtcomes := collect_eq_ok_iff.mp hcollect
      rw [hcollect] at hrun
      exact .inl ⟨points, houtcomes,
        fun p hp session => (hmeasures.of_mem houtcomes hp).answers_nearest session, hrun⟩
  | error error =>
      obtain ⟨points, rest, hsplit⟩ := exists_first_of_collect hcollect
      rw [hcollect] at hrun
      exact .inr ⟨points, error, rest, hsplit, hrun⟩

/-- A block is full of points when the next item fails, and one more point follows. -/
theorem expand_onePass_secondBlock :
    let point : Point := ⟨7, .ofCoordinates [(0, 3.0)]⟩
    let items : List (Reply Point) := List.replicate blockSize (.ok point) ++
      [{ outcome := .error (.other "connection reset") }, .ok point]
    let store : PointStore Unit SplitMix :=
      { Population.empty.store with scan := fun state => (.ok items, state) }
    let session : Session Unit SplitMix := { store := (), random := {} }
    (store.expand true [⟨1, .ofCoordinates []⟩]).Fails session (.error (.other "connection reset"))
      session := by
  intro point items store session
  have hopen : store.openScan.Answers session items session := rfl
  have hmeasures : store.MeasuresScan (fun _ _ => 3.0) items [⟨1, .ofCoordinates []⟩] := by
    intro item hitem p hok
    have hp : p = point := by
      simp only [items, List.mem_append, List.mem_replicate, List.mem_cons, List.not_mem_nil,
        or_false] at hitem
      rcases hitem with ⟨-, rfl⟩ | rfl | rfl <;> cases hok <;> rfl
    subst hp
    exact List.forall_mem_singleton.mpr (by decide +kernel)
  have houtcomes : ∀ error : Error, .error error ∈ items.map Reply.outcome →
      error = .other "connection reset" := by
    intro error herror
    obtain ⟨item, hitem, hfails⟩ := List.mem_map.mp herror
    simp only [items, List.mem_append, List.mem_replicate, List.mem_cons, List.not_mem_nil,
      or_false] at hitem
    rcases hitem with ⟨-, rfl⟩ | rfl | rfl <;> cases hfails
    rfl
  rcases expand_onePass (List.cons_ne_nil _ _) hopen hmeasures true with
    ⟨points, hpoints, -⟩ | ⟨points, error, rest, hsplit, hfails⟩
  · have hmem : .error (.other "connection reset") ∈ items.map Reply.outcome := by simp [items]
    rw [hpoints] at hmem
    obtain ⟨_, -, hok⟩ := List.mem_map.mp hmem
    cases hok
  · have herror := houtcomes error (hsplit ▸ List.mem_append_right _ List.mem_cons_self)
    exact herror ▸ hfails

end PointStore

end SampledKmeans
