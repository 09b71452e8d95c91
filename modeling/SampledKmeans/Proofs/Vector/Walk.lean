import Mathlib.Tactic.SplitIfs
import Mathlib.Tactic.Tauto
import SampledKmeans.Vector.Distance
import SampledKmeans.Proofs.Vector.Balanced

/-!
# Walking two vectors side by side

A walk meets every index that one of two vectors stores, in order and none of them twice
(`Walk.Covers`).  What makes this so is the order of the indices: an index that is met on
one side while the other side is already beyond it cannot come up there later.

Each kind of gap extends both lists by one index below all of the others
(`Walk.Covers.meet`), so that the cases of the walk differ in nothing but the lists they
extend.
-/

namespace SampledKmeans.SparseVector

/-! ## Vectors in order -/

/-- Coordinates in the order of their indices. -/
def Ascending (coordinates : List (UInt32 × Float)) : Prop :=
  coordinates.Pairwise fun c c' => c.1 < c'.1

theorem lookup_eq_none_of_not_mem {i : UInt32} {coordinates : List (UInt32 × Float)}
    (h : i ∉ coordinates.map Prod.fst) : coordinates.lookup i = none := by
  rw [List.lookup_eq_none_iff]
  intro c hc
  refine bne_iff_ne.mpr fun heq => h ?_
  exact heq ▸ List.mem_map_of_mem hc

theorem lookup_eq_none_of_lt {i : UInt32} {coordinates : List (UInt32 × Float)}
    (h : ∀ c ∈ coordinates, i < c.1) : coordinates.lookup i = none := by
  rw [List.lookup_eq_none_iff]
  intro c hc
  exact bne_iff_ne.mpr (UInt32.ne_of_lt (h c hc))

theorem lookup_cons_of_ne {i k : UInt32} (h : k ≠ i) (x : Float)
    (coordinates : List (UInt32 × Float)) :
    ((i, x) :: coordinates).lookup k = coordinates.lookup k := by
  rw [List.lookup_cons, beq_eq_false_iff_ne.mpr h]

/-- As many values as indices, and every index greater than those before it. -/
structure Ordered (v : SparseVector) : Prop where
  balanced : v.Balanced
  increasing : v.indices.Pairwise (· < ·)

instance (v : SparseVector) : Decidable v.Ordered :=
  decidable_of_iff (v.Balanced ∧ v.indices.Pairwise (· < ·))
    ⟨fun ⟨balanced, increasing⟩ => { balanced, increasing },
      fun h => ⟨h.balanced, h.increasing⟩⟩

theorem Valid.ordered {v : SparseVector} (h : v.Valid) : v.Ordered :=
  ⟨h.balanced, h.increasing⟩

variable {a b v : SparseVector}

theorem Ordered.map_fst_coordinates (h : v.Ordered) : v.coordinates.map Prod.fst = v.indices :=
  List.map_fst_zip (Nat.le_of_eq h.balanced)

theorem Ordered.map_snd_coordinates (h : v.Ordered) : v.coordinates.map Prod.snd = v.values :=
  List.map_snd_zip (Nat.le_of_eq (Eq.symm h.balanced))

theorem Ordered.ascending (h : v.Ordered) : Ascending v.coordinates := by
  have hindices := h.increasing
  rw [← h.map_fst_coordinates, List.pairwise_map] at hindices
  exact hindices

/-! ## What a walk lists -/

/-- The values of two vectors at one index, each as far as it is stored. -/
abbrev Entry := Option Float × Option Float

/-- The values that are met at an index. -/
def Gap.entry : Gap → Entry
  | .both _ x y => (some x, some y)
  | .left _ x => (some x, none)
  | .right _ y => (none, some y)

/-- The values that a walk lists, index by index. -/
def Walk.entries (walk : Walk) : List Entry :=
  walk.gaps.map Gap.entry ++ walk.leftRest.map (some ·, none) ++ walk.rightRest.map (none, some ·)

theorem Walk.entries_meet (gap : Gap) (walk : Walk) :
    (walk.meet gap).entries = gap.entry :: walk.entries :=
  rfl

/-! ## Every index once -/

variable {left right : List (UInt32 × Float)}

/-- A walk lists the values at every index of two lists of coordinates, in the order of
the indices. -/
def Walk.Covers (walk : Walk) (left right : List (UInt32 × Float)) : Prop :=
  ∃ order : List UInt32, order.Pairwise (· < ·) ∧
    (∀ i, i ∈ order ↔ i ∈ left.map Prod.fst ∨ i ∈ right.map Prod.fst) ∧
    walk.entries = order.map fun i => (left.lookup i, right.lookup i)

/-- Two lists may hold one more index, below all of the others, which is then met
first. -/
theorem Walk.Covers.meet {walk : Walk} {gap : Gap} {left' right' : List (UInt32 × Float)}
    {i : UInt32} (hcovers : walk.Covers left right)
    (hleft : ∀ c ∈ left, i < c.1) (hright : ∀ c ∈ right, i < c.1)
    (hleft' : ∀ k, k ≠ i → left'.lookup k = left.lookup k)
    (hright' : ∀ k, k ≠ i → right'.lookup k = right.lookup k)
    (hmem : ∀ k, k ∈ left'.map Prod.fst ∨ k ∈ right'.map Prod.fst ↔
      k = i ∨ k ∈ left.map Prod.fst ∨ k ∈ right.map Prod.fst)
    (hentry : gap.entry = (left'.lookup i, right'.lookup i)) :
    (walk.meet gap).Covers left' right' := by
  obtain ⟨order, hpairwise, horder, hentries⟩ := hcovers
  have hlow : ∀ k ∈ order, i < k := by
    intro k hk
    rcases (horder k).mp hk with hk | hk
    · obtain ⟨c, hc, rfl⟩ := List.mem_map.mp hk
      exact hleft c hc
    · obtain ⟨c, hc, rfl⟩ := List.mem_map.mp hk
      exact hright c hc
  refine ⟨i :: order, List.pairwise_cons.mpr ⟨hlow, hpairwise⟩, ?_, ?_⟩
  · intro k
    rw [hmem, List.mem_cons, horder]
  · rw [Walk.entries_meet, hentries, List.map_cons, hentry]
    refine congrArg (_ :: ·) (List.map_congr_left fun k hk => ?_)
    have hne : k ≠ i := (UInt32.ne_of_lt (hlow k hk)).symm
    rw [hleft' k hne, hright' k hne]

theorem Walk.Covers.meet_left {walk : Walk} {i : UInt32} {x : Float}
    (hcovers : walk.Covers left right) (hleft : ∀ c ∈ left, i < c.1)
    (hright : ∀ c ∈ right, i < c.1) :
    (walk.meet (.left i x)).Covers ((i, x) :: left) right := by
  refine hcovers.meet hleft hright (fun k hk => lookup_cons_of_ne hk x left) (fun _ _ => rfl)
    (fun k => ?_) ?_
  · rw [List.map_cons, List.mem_cons, or_assoc]
  · rw [List.lookup_cons_self, lookup_eq_none_of_lt hright, Gap.entry]

theorem Walk.Covers.meet_right {walk : Walk} {j : UInt32} {y : Float}
    (hcovers : walk.Covers left right) (hleft : ∀ c ∈ left, j < c.1)
    (hright : ∀ c ∈ right, j < c.1) :
    (walk.meet (.right j y)).Covers left ((j, y) :: right) := by
  refine hcovers.meet hleft hright (fun _ _ => rfl) (fun k hk => lookup_cons_of_ne hk y right)
    (fun k => ?_) ?_
  · rw [List.map_cons, List.mem_cons, or_left_comm]
  · rw [List.lookup_cons_self, lookup_eq_none_of_lt hleft, Gap.entry]

theorem Walk.Covers.meet_both {walk : Walk} {i : UInt32} {x y : Float}
    (hcovers : walk.Covers left right) (hleft : ∀ c ∈ left, i < c.1)
    (hright : ∀ c ∈ right, i < c.1) :
    (walk.meet (.both i x y)).Covers ((i, x) :: left) ((i, y) :: right) := by
  refine hcovers.meet hleft hright (fun k hk => lookup_cons_of_ne hk x left)
    (fun k hk => lookup_cons_of_ne hk y right) (fun k => ?_) ?_
  · rw [List.map_cons, List.map_cons, List.mem_cons, List.mem_cons]
    tauto
  · rw [List.lookup_cons_self, List.lookup_cons_self, Gap.entry]

/-- What is left of the left list when the right one is exhausted. -/
theorem covers_leftRest (h : Ascending left) :
    Walk.Covers ⟨[], left.map Prod.snd, []⟩ left [] := by
  induction left with
  | nil => exact ⟨[], .nil, by simp, rfl⟩
  | cons c left ih =>
      obtain ⟨hlt, hrest⟩ := List.pairwise_cons.mp h
      exact (ih hrest).meet_left hlt (by simp)

theorem covers_rightRest (h : Ascending right) :
    Walk.Covers ⟨[], [], right.map Prod.snd⟩ [] right := by
  induction right with
  | nil => exact ⟨[], .nil, by simp, rfl⟩
  | cons c right ih =>
      obtain ⟨hlt, hrest⟩ := List.pairwise_cons.mp h
      exact (ih hrest).meet_right (by simp) hlt

/-- A walk past an index covers both lists when what goes on from there does. -/
theorem covers_walkPast {i : UInt32} {x : Float}
    {next : List Float → List UInt32 → List Float → Option Walk}
    (hleft : Ascending ((i, x) :: left))
    (hnext : ∀ right, Ascending right → ∃ walk,
      next (left.map Prod.snd) (right.map Prod.fst) (right.map Prod.snd) = some walk ∧
        walk.Covers left right)
    (hright : Ascending right) :
    ∃ walk, walkPast i (((i, x) :: left).map Prod.snd) next (right.map Prod.fst)
      (right.map Prod.snd) = some walk ∧ walk.Covers ((i, x) :: left) right := by
  obtain ⟨hlt, -⟩ := List.pairwise_cons.mp hleft
  induction right with
  | nil => exact ⟨_, rfl, covers_leftRest hleft⟩
  | cons c right ih =>
      obtain ⟨j, y⟩ := c
      obtain ⟨hlt', hright'⟩ := List.pairwise_cons.mp hright
      simp only [List.map_cons, walkPast]
      split_ifs with heq hle
      · subst heq
        obtain ⟨walk, hwalk, hcovers⟩ := hnext right hright'
        exact ⟨_, by rw [hwalk, Option.map_some], hcovers.meet_both hlt hlt'⟩
      · obtain ⟨walk, hwalk, hcovers⟩ := hnext _ hright
        have hall : ∀ c ∈ (j, y) :: right, i < c.1 :=
          List.forall_mem_cons.mpr ⟨hle, fun c hc => UInt32.lt_trans hle (hlt' c hc)⟩
        simp only [List.map_cons] at hwalk
        exact ⟨_, by rw [hwalk, Option.map_some], hcovers.meet_left hlt hall⟩
      · obtain ⟨walk, hwalk, hcovers⟩ := ih hright'
        have hji : j < i := UInt32.lt_of_le_of_ne (UInt32.not_lt.mp hle) (Ne.symm heq)
        have hall : ∀ c ∈ (i, x) :: left, j < c.1 :=
          List.forall_mem_cons.mpr ⟨hji, fun c hc => UInt32.lt_trans hji (hlt c hc)⟩
        simp only [List.map_cons] at hwalk
        exact ⟨_, by rw [hwalk, Option.map_some], hcovers.meet_right hall hlt'⟩

theorem covers_walkLists (hleft : Ascending left) (hright : Ascending right) :
    ∃ walk, walkLists (left.map Prod.fst) (left.map Prod.snd) (right.map Prod.fst)
      (right.map Prod.snd) = some walk ∧ walk.Covers left right := by
  induction left generalizing right with
  | nil => exact ⟨_, rfl, covers_rightRest hright⟩
  | cons c left ih =>
      obtain ⟨-, hleft'⟩ := List.pairwise_cons.mp hleft
      exact covers_walkPast hleft (fun right hright => ih hleft' hright) hright

theorem Ordered.exists_walk (ha : a.Ordered) (hb : b.Ordered) :
    ∃ walk, walk? a b = some walk ∧ walk.Covers a.coordinates b.coordinates := by
  have h := covers_walkLists ha.ascending hb.ascending
  rw [ha.map_fst_coordinates, ha.map_snd_coordinates, hb.map_fst_coordinates,
    hb.map_snd_coordinates] at h
  exact h

end SampledKmeans.SparseVector
