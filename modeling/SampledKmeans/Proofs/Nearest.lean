import SampledKmeans.Nearest
import SampledKmeans.Proofs.Procedure

/-!
# Nearest centroids without a session

Measuring distances asks nothing of the session.  `distances?`, `nearest?` and
`labels?` are the answers that the procedures `measureAll`, `nearest` and
`assign` give in every session, or `none` where a distance is undefined.

The nearest centroid is one of those that were offered, whatever the distances
are (`id_mem_of_nearest?`).  Nothing is asked of them, not even that they are
numbers.
-/

namespace SampledKmeans

theorem foldl_nearer_mem (measured : List (Nat × Float)) (best : Nat × Float) :
    measured.foldl nearer best ∈ best :: measured := by
  induction measured generalizing best with
  | nil => exact List.mem_cons_self
  | cons next measured ih =>
      rw [List.foldl_cons]
      have hchoice : nearer best next = best ∨ nearer best next = next := by
        unfold nearer
        split <;> simp
      rcases hchoice with h | h
      · rw [h]
        rcases List.mem_cons.mp (ih best) with heq | hmem
        · rw [heq]
          exact List.mem_cons_self
        · exact List.mem_cons_of_mem _ (List.mem_cons_of_mem _ hmem)
      · rw [h]
        exact List.mem_cons_of_mem _ (ih next)

/-- The choice is a measured centroid, or the first one at an infinite
distance. -/
theorem nearestOf_mem_or (measured : List (Nat × Float)) :
    nearestOf measured ∈ measured ∨
      nearestOf measured = ((measured.head?.map Prod.fst).getD 0, infiniteDistance) :=
  (List.mem_cons.mp (foldl_nearer_mem measured _)).symm

theorem nearestOf_fst_mem {measured : List (Nat × Float)} (h : measured ≠ []) :
    (nearestOf measured).1 ∈ measured.map Prod.fst := by
  cases measured with
  | nil => exact absurd rfl h
  | cons first measured =>
      rcases nearestOf_mem_or (first :: measured) with hmem | heq
      · exact List.mem_map_of_mem hmem
      · rw [heq]
        exact List.mem_cons_self

theorem forall₂_iff_mapM_eq_some {α β : Type*} {f : α → Option β} {l : List α} {bs : List β} :
    l.mapM f = some bs ↔ List.Forall₂ (fun a b => f a = some b) l bs := by
  induction l generalizing bs with
  | nil => simp [eq_comm]
  | cons a l ih =>
      rw [List.mapM_cons, List.forall₂_cons_left_iff]
      simp only [← ih, Option.bind_eq_bind, Option.bind_eq_some_iff, Option.pure_def,
        Option.some.injEq]
      constructor
      · rintro ⟨b, hb, bs', hbs, rfl⟩
        exact ⟨b, bs', hb, hbs, rfl⟩
      · rintro ⟨b, bs', hb, hbs, rfl⟩
        exact ⟨b, hb, bs', hbs, rfl⟩

theorem exists_mapM_eq_some {α β : Type} {f : α → Option β} {l : List α}
    (h : ∀ a ∈ l, ∃ b, f a = some b) : ∃ bs, l.mapM f = some bs := by
  induction l with
  | nil => exact ⟨[], rfl⟩
  | cons a l ih =>
      obtain ⟨⟨b, hb⟩, hrest⟩ := List.forall_mem_cons.mp h
      obtain ⟨bs, hbs⟩ := ih hrest
      exact ⟨b :: bs, by simp [List.mapM_cons, hb, hbs]⟩

namespace PointStore

variable {σ ρ : Type} (store : PointStore σ ρ)

/-- The distances from a position to all centroids. -/
def distances? (position : SparseVector) (centroids : List Centroid) :
    Option (List (Nat × Float)) :=
  centroids.mapM fun c => (store.metric position c.position).map fun d => (c.id, d)

/-- The nearest centroid to a position, with its distance. -/
def nearest? (position : SparseVector) (centroids : List Centroid) : Option (Nat × Float) :=
  (store.distances? position centroids).map nearestOf

/-- The identifier of the nearest centroid for every point. -/
def labels? (points : List Point) (centroids : List Centroid) : Option (List Nat) :=
  points.mapM fun p => (store.nearest? p.position centroids).map Prod.fst

/-! ## The procedures answer them -/

theorem measureAll_eq (position : SparseVector) (centroids : List Centroid) :
    store.measureAll position centroids =
      Procedure.expect (store.distances? position centroids) := by
  rw [distances?, Procedure.expect_mapM]
  exact congrArg (fun f => centroids.mapM f) (funext fun c => (Procedure.expect_map _ _).symm)

theorem nearest_eq (position : SparseVector) (centroids : List Centroid) :
    store.nearest position centroids = Procedure.expect (store.nearest? position centroids) := by
  rw [nearest, measureAll_eq, nearest?, Procedure.expect_map]

theorem assign_eq (points : List Point) (centroids : List Centroid) :
    store.assign points centroids = Procedure.expect (store.labels? points centroids) := by
  rw [labels?, Procedure.expect_mapM]
  refine congrArg (fun f => points.mapM f) (funext fun p => ?_)
  rw [nearest_eq, Procedure.expect_map]

/-! ## What they are -/

variable {store}

theorem id_mem_of_nearest? {position : SparseVector} {centroids : List Centroid} {id : Nat}
    {d : Float} (hne : centroids ≠ []) (h : store.nearest? position centroids = some (id, d)) :
    id ∈ centroids.map Centroid.id := by
  obtain ⟨measured, hmeasured, hnearest⟩ := Option.map_eq_some_iff.mp h
  have hforall := forall₂_iff_mapM_eq_some.mp hmeasured
  have hids : measured.map Prod.fst = centroids.map Centroid.id := by
    clear hmeasured hnearest hne h
    induction hforall with
    | nil => rfl
    | cons hd _ ih =>
        obtain ⟨d, -, rfl⟩ := Option.map_eq_some_iff.mp hd
        rw [List.map_cons, List.map_cons, ih]
  have hmeasuredne : measured ≠ [] := by
    rintro rfl
    exact hne (by simpa using hids.symm)
  rw [← hids, ← show (nearestOf measured).1 = id from congrArg Prod.fst hnearest]
  exact nearestOf_fst_mem hmeasuredne

theorem labels?_eq_some_iff {points : List Point} {centroids : List Centroid} {labels : List Nat} :
    store.labels? points centroids = some labels ↔
      List.Forall₂ (fun p label => ∃ d, store.nearest? p.position centroids = some (label, d))
        points labels := by
  rw [labels?, forall₂_iff_mapM_eq_some]
  simp

theorem length_of_labels? {points : List Point} {centroids : List Centroid} {labels : List Nat}
    (h : store.labels? points centroids = some labels) : labels.length = points.length :=
  (labels?_eq_some_iff.mp h).length_eq.symm

theorem label_mem_of_labels? {points : List Point} {centroids : List Centroid} {labels : List Nat}
    (hne : centroids ≠ []) (h : store.labels? points centroids = some labels) :
    ∀ label ∈ labels, label ∈ centroids.map Centroid.id := by
  have hforall := labels?_eq_some_iff.mp h
  clear h
  induction hforall with
  | nil => simp
  | cons hnearest _ ih =>
      obtain ⟨d, hd⟩ := hnearest
      exact List.forall_mem_cons.mpr ⟨id_mem_of_nearest? hne hd, ih⟩

/-- The metric is defined for any two positions. -/
def HasTotalMetric (store : PointStore σ ρ) : Prop :=
  ∀ a b, ∃ d, store.metric a b = some d

theorem HasTotalMetric.exists_labels? (hmetric : store.HasTotalMetric) (points : List Point)
    (centroids : List Centroid) : ∃ labels, store.labels? points centroids = some labels := by
  refine exists_mapM_eq_some fun p _ => ?_
  have hdistances : ∃ measured, store.distances? p.position centroids = some measured := by
    refine exists_mapM_eq_some fun c _ => ?_
    obtain ⟨d, hd⟩ := hmetric p.position c.position
    exact ⟨(c.id, d), by rw [hd, Option.map_some]⟩
  obtain ⟨measured, hmeasured⟩ := hdistances
  exact ⟨(nearestOf measured).1, by rw [nearest?, hmeasured, Option.map_some, Option.map_some]⟩

end PointStore

end SampledKmeans
