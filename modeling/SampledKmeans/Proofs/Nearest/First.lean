import SampledKmeans.Proofs.Nearest.Least
import SampledKmeans.Random.SplitMix
import SampledKmeans.Store.Population

/-!
# The first of the nearest centroids

Distances are compared by `<` alone, in which a NaN takes no part.  What is kept
in the end is therefore the start, when no distance is smaller than it, or the
first of the smallest distances: everything measured before it is greater or not
a number (`foldl_nearer_cases`).

The start of the choice is infinity, which belongs to the first centroid without
having been measured.  Only where no distance is smaller than infinity does the
choice not come with a distance of its own (`nearestBy_cases`).
-/

namespace SampledKmeans

/-! ## The choice -/

theorem foldl_nearer_cases (measured : List (Nat × Float)) (best : Nat × Float) :
    (measured.foldl nearer best = best ∧ ∀ entry ∈ measured, ¬ entry.2 < best.2) ∨
      ∃ before chosen after, measured = before ++ chosen :: after ∧
        measured.foldl nearer best = chosen ∧ chosen.2 < best.2 ∧
        ∀ entry ∈ before, ¬ entry.2 ≤ chosen.2 := by
  induction measured generalizing best with
  | nil => exact .inl ⟨rfl, by simp⟩
  | cons next measured ih =>
      rw [List.foldl_cons]
      by_cases hnext : next.2 < best.2
      · rw [show nearer best next = next from if_pos hnext]
        rcases ih next with ⟨hkept, -⟩ | ⟨before, chosen, after, rfl, hchosen, hlt, hbefore⟩
        · exact .inr ⟨[], next, measured, rfl, hkept, hnext, by simp⟩
        · refine .inr ⟨next :: before, chosen, after, rfl, hchosen,
            Number.lt_of_le_of_lt (Number.le_of_lt hlt) hnext, ?_⟩
          exact List.forall_mem_cons.mpr ⟨fun hle => Number.not_lt_of_le hle hlt, hbefore⟩
      · rw [show nearer best next = best from if_neg hnext]
        rcases ih best with ⟨hkept, hall⟩ | ⟨before, chosen, after, rfl, hchosen, hlt, hbefore⟩
        · exact .inl ⟨hkept, List.forall_mem_cons.mpr ⟨hnext, hall⟩⟩
        · refine .inr ⟨next :: before, chosen, after, rfl, hchosen, hlt, ?_⟩
          exact List.forall_mem_cons.mpr
            ⟨fun hle => hnext (Number.lt_of_le_of_lt hle hlt), hbefore⟩

theorem nearestOf_cons (entry : Nat × Float) (measured : List (Nat × Float)) :
    nearestOf (entry :: measured) =
      (entry :: measured).foldl nearer (entry.1, infiniteDistance) := by
  rw [nearestOf, List.head?_cons, Option.map_some, Option.getD_some]

/-! ## The nearest centroid by a distance -/

/-- The nearest centroid to a position by a distance, with that distance. -/
def nearestBy (distance : SparseVector → SparseVector → Float) (position : SparseVector)
    (centroids : List Centroid) : Nat × Float :=
  nearestOf (centroids.map fun c => (c.id, distance position c.position))

section Choice

variable {distance : SparseVector → SparseVector → Float} {position : SparseVector}
  {centroids : List Centroid}

theorem nearestBy_cons (distance : SparseVector → SparseVector → Float) (position : SparseVector)
    (first : Centroid) (rest : List Centroid) :
    nearestBy distance position (first :: rest) =
      ((first :: rest).map fun c => (c.id, distance position c.position)).foldl nearer
        (first.id, infiniteDistance) := by
  rw [nearestBy, List.map_cons, nearestOf_cons]

/-- The choice comes with its own distance, unless none is smaller than infinity. -/
theorem nearestBy_cases (distance : SparseVector → SparseVector → Float) (position : SparseVector)
    (first : Centroid) (rest : List Centroid) :
    (nearestBy distance position (first :: rest) = (first.id, infiniteDistance) ∧
        ∀ c ∈ first :: rest, ¬ distance position c.position < infiniteDistance) ∨
      ∃ before chosen after, first :: rest = before ++ chosen :: after ∧
        nearestBy distance position (first :: rest) =
          (chosen.id, distance position chosen.position) ∧
        distance position chosen.position < infiniteDistance ∧
        ∀ c ∈ before, ¬ distance position c.position ≤ distance position chosen.position := by
  rw [nearestBy_cons]
  rcases foldl_nearer_cases ((first :: rest).map fun c => (c.id, distance position c.position))
    (first.id, infiniteDistance) with
    ⟨hkept, hall⟩ | ⟨before, chosen, after, hsplit, hchosen, hlt, hbefore⟩
  · exact .inl ⟨hkept, fun c hc =>
      hall (c.id, distance position c.position) (List.mem_map_of_mem hc)⟩
  · obtain ⟨before, tail, hcentroids, rfl, htail⟩ := List.map_eq_append_iff.mp hsplit
    obtain ⟨c, after, rfl, rfl, rfl⟩ := List.map_eq_cons_iff.mp htail
    exact .inr ⟨before, c, after, hcentroids, hchosen, hlt,
      fun other hother =>
        hbefore (other.id, distance position other.position) (List.mem_map_of_mem hother)⟩

theorem not_lt_nearestBy {c : Centroid} (hc : c ∈ centroids) :
    ¬ distance position c.position < (nearestBy distance position centroids).2 := by
  have hentry : (c.id, distance position c.position) ∈
      centroids.map fun c => (c.id, distance position c.position) := List.mem_map_of_mem hc
  have hnot := not_lt_nearestOf hentry
  exact hnot

theorem isNaN_nearestBy (distance : SparseVector → SparseVector → Float) (position : SparseVector)
    (first : Centroid) (rest : List Centroid) :
    (nearestBy distance position (first :: rest)).2.isNaN = false := by
  rcases nearestBy_cases distance position first rest with
    ⟨hnearest, -⟩ | ⟨_, _, _, -, hnearest, hlt, -⟩
  · rw [hnearest]
    exact Number.isNaN_infiniteDistance
  · rw [hnearest]
    exact (Number.lt_iff_rank_lt.mp hlt).1

end Choice

/-- In a list that is numbered in order, a centroid with a lower number stands before. -/
theorem mem_before_of_id_lt {before after : List Centroid} {chosen c : Centroid} {k : Nat}
    (hids : (before ++ chosen :: after).map Centroid.id = List.range' 1 k)
    (hc : c ∈ before ++ chosen :: after) (hlt : c.id < chosen.id) : c ∈ before := by
  have hordered : ((before ++ chosen :: after).map Centroid.id).Pairwise (· < ·) :=
    hids ▸ List.pairwise_lt_range'
  rw [List.pairwise_map, List.pairwise_append] at hordered
  rcases List.mem_append.mp hc with hbefore | hrest
  · exact hbefore
  rcases List.mem_cons.mp hrest with rfl | hafter
  · exact absurd hlt (Nat.lt_irrefl _)
  · have := (List.pairwise_cons.mp hordered.2.1).1 c hafter
    omega

namespace PointStore

variable {σ ρ : Type} {store : PointStore σ ρ}
  {distance : SparseVector → SparseVector → Float} {position : SparseVector}
  {centroids : List Centroid}

/-- The store measures the distances from a position to the centroids, and they are
those that the function says. -/
def Measures (store : PointStore σ ρ) (distance : SparseVector → SparseVector → Float)
    (position : SparseVector) (centroids : List Centroid) : Prop :=
  ∀ c ∈ centroids, store.metric position c.position = some (distance position c.position)

theorem Measures.distances?_eq (h : store.Measures distance position centroids) :
    store.distances? position centroids =
      some (centroids.map fun c => (c.id, distance position c.position)) := by
  rw [distances?, forall₂_iff_mapM_eq_some, List.forall₂_map_right_iff, List.forall₂_same]
  intro c hc
  rw [h c hc, Option.map_some]

theorem Measures.nearest?_eq (h : store.Measures distance position centroids) :
    store.nearest? position centroids = some (nearestBy distance position centroids) := by
  rw [nearest?, h.distances?_eq, Option.map_some, nearestBy]

theorem Measures.answers_nearest (h : store.Measures distance position centroids)
    (session : Session σ ρ) : (store.nearest position centroids).Answers session
      (nearestBy distance position centroids) session := by
  rw [nearest_eq, Procedure.answers_expect_iff]
  exact ⟨h.nearest?_eq, rfl⟩

/-- Whatever the distances are, NaNs, infinities and negative numbers among them: the
distance that is answered is a number, and no centroid is nearer.  It is that of the
centroid that is answered, the first one that is so near, if some distance is smaller
than infinity; otherwise the first centroid is answered, at infinity. -/
theorem nearest_answers_first (hne : centroids ≠ [])
    (hids : centroids.map Centroid.id = List.range' 1 centroids.length)
    (hmeasures : store.Measures distance position centroids) (session : Session σ ρ) :
    ∃ id d, (store.nearest position centroids).Answers session (id, d) session ∧
      d.isNaN = false ∧
      (∀ c ∈ centroids, ¬ distance position c.position < d) ∧
      ((∃ c ∈ centroids, distance position c.position < infiniteDistance) →
        (∃ c ∈ centroids, c.id = id ∧ distance position c.position = d) ∧
        ∀ c ∈ centroids, c.id < id →
          (distance position c.position).isNaN = true ∨ d < distance position c.position) ∧
      ((∀ c ∈ centroids, ¬ distance position c.position < infiniteDistance) →
        id = 1 ∧ d = infiniteDistance) := by
  obtain ⟨first, rest, rfl⟩ := List.exists_cons_of_ne_nil hne
  have hanswers := hmeasures.answers_nearest session
  have hnumber := isNaN_nearestBy distance position first rest
  have hleast : ∀ c ∈ first :: rest, ¬ distance position c.position <
      (nearestBy distance position (first :: rest)).2 := fun c hc => not_lt_nearestBy hc
  have hcases := nearestBy_cases distance position first rest
  generalize nearestBy distance position (first :: rest) = choice at hanswers hnumber hleast hcases
  obtain ⟨id, d⟩ := choice
  refine ⟨id, d, hanswers, hnumber, hleast, ?_, ?_⟩
  · rintro ⟨near, hnear, hlt⟩
    rcases hcases with ⟨-, hfar⟩ | ⟨before, chosen, after, hsplit, heq, hchosen, hbefore⟩
    · exact absurd hlt (hfar near hnear)
    · obtain ⟨rfl, rfl⟩ := Prod.mk.inj heq
      refine ⟨⟨chosen, hsplit ▸ List.mem_append_right _ List.mem_cons_self, rfl, rfl⟩, ?_⟩
      intro c hc hid
      have hnot := hbefore c (mem_before_of_id_lt (hsplit ▸ hids) (hsplit ▸ hc) hid)
      cases hnan : (distance position c.position).isNaN with
      | true => exact .inl rfl
      | false => exact .inr (Number.lt_of_not_le hnumber hnan hnot)
  · intro hfar
    rcases hcases with ⟨heq, -⟩ | ⟨before, chosen, after, hsplit, -, hchosen, -⟩
    · obtain ⟨rfl, rfl⟩ := Prod.mk.inj heq
      exact ⟨(List.cons.inj hids).1, rfl⟩
    · exact absurd hchosen (hfar chosen (hsplit ▸ List.mem_append_right _ List.mem_cons_self))

/-- A NaN, an infinite distance and a greater one come before two negative distances
that are equal. -/
theorem nearest_answers_first_negative :
    let distance : SparseVector → SparseVector → Float := fun _ b => b.values.headD 0.0
    let store : PointStore Unit SplitMix :=
      { Population.empty.store with metric := fun a b => some (distance a b) }
    let centroids : List Centroid := [0.0 / 0.0, 1.0 / 0.0, 2.0, -1.0, -1.0].mapIdx
      fun i x => ⟨i + 1, .ofCoordinates [(0, x)]⟩
    let position : SparseVector := .ofCoordinates []
    let session : Session Unit SplitMix := { store := (), random := {} }
    (store.nearest position centroids).Answers session (4, -1.0) session ∧
      (∀ c ∈ centroids, ¬ distance position c.position < -1.0) ∧
      ∀ c ∈ centroids, c.id < 4 →
        (distance position c.position).isNaN = true ∨ -1.0 < distance position c.position := by
  intro distance store centroids position session
  have hmeasures : store.Measures distance position centroids := fun _ _ => rfl
  have hsome : ∃ c ∈ centroids, distance position c.position < infiniteDistance :=
    ⟨⟨3, .ofCoordinates [(0, 2.0)]⟩, by decide +kernel, by decide +kernel⟩
  have hne : centroids ≠ [] := List.cons_ne_nil _ _
  have hchoice : (store.nearest position centroids).outcome session = .ok (4, -1.0) := by
    decide +kernel
  obtain ⟨id, d, hanswers, -, hleast, hfirst, -⟩ :=
    nearest_answers_first hne rfl hmeasures session
  obtain ⟨rfl, rfl⟩ : id = 4 ∧ d = -1.0 := by
    rw [hanswers.outcome_eq] at hchoice
    exact Prod.mk.inj (Except.ok.inj hchoice)
  exact ⟨hanswers, hleast, (hfirst hsome).2⟩

end PointStore

end SampledKmeans
