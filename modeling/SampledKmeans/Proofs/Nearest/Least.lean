import SampledKmeans.Proofs.Nearest
import SampledKmeans.Proofs.Number.Order

/-!
# The nearest centroid is nearest

A measured distance replaces the best so far when it is smaller, so no distance
is smaller than the one that is left in the end (`not_lt_foldl_nearer`).  When
all distances are numbers, none of them is smaller than that of the centroid
that was chosen, whichever of several equally near ones that is, and also when
all of them are infinite (`HasDistance.distance_le_of_nearest?`).
-/

namespace SampledKmeans

/-! ## Choosing among measured distances -/

theorem not_lt_foldl_nearer (measured : List (Nat × Float)) (best : Nat × Float)
    (hbest : best.2.isNaN = false) :
    ∀ entry ∈ best :: measured, ¬ entry.2 < (measured.foldl nearer best).2 := by
  induction measured generalizing best with
  | nil =>
      intro entry hentry hlt
      rw [List.mem_singleton.mp hentry] at hlt
      exact Number.not_lt_of_le (Number.le_refl_of_not_isNaN hbest) hlt
  | cons next measured ih =>
      rw [List.foldl_cons]
      by_cases hnext : next.2 < best.2
      · have hchoice : nearer best next = next := if_pos hnext
        rw [hchoice]
        have hall := ih next (Number.lt_iff_rank_lt.mp hnext).1
        intro entry hentry
        rcases List.mem_cons.mp hentry with rfl | hrest
        · intro hlt
          exact hall next List.mem_cons_self
            (Number.lt_of_le_of_lt (Number.le_of_lt hnext) hlt)
        · exact hall entry hrest
      · have hchoice : nearer best next = best := if_neg hnext
        rw [hchoice]
        have hall := ih best hbest
        intro entry hentry
        rcases List.mem_cons.mp hentry with rfl | hrest
        · exact hall entry List.mem_cons_self
        · rcases List.mem_cons.mp hrest with rfl | hrest
          · intro hlt
            have hle : best.2 ≤ entry.2 :=
              Number.le_of_not_lt hbest (Number.lt_iff_rank_lt.mp hlt).1 hnext
            exact hall best List.mem_cons_self (Number.lt_of_le_of_lt hle hlt)
          · exact hall entry (List.mem_cons_of_mem _ hrest)

/-- No measured distance is smaller than the one that is chosen. -/
theorem not_lt_nearestOf {measured : List (Nat × Float)} {entry : Nat × Float}
    (h : entry ∈ measured) : ¬ entry.2 < (nearestOf measured).2 := by
  unfold nearestOf
  generalize (measured.head?.map Prod.fst).getD 0 = id
  exact not_lt_foldl_nearer measured (id, infiniteDistance) Number.isNaN_infiniteDistance entry
    (List.mem_cons_of_mem _ h)

/-! ## Stores with a distance -/

namespace PointStore

variable {σ ρ : Type} {store : PointStore σ ρ}
  {distance : SparseVector → SparseVector → Float} {position : SparseVector}
  {centroids : List Centroid}

/-- The store measures what the function says, where it measures at all. -/
def HasDistance (store : PointStore σ ρ) (distance : SparseVector → SparseVector → Float) : Prop :=
  ∀ a b d, store.metric a b = some d → d = distance a b

theorem HasDistance.distances?_eq (hdistance : store.HasDistance distance)
    {measured : List (Nat × Float)} (h : store.distances? position centroids = some measured) :
    measured = centroids.map fun c => (c.id, distance position c.position) := by
  have hforall := forall₂_iff_mapM_eq_some.mp h
  clear h
  induction hforall with
  | nil => rfl
  | cons hd _ ih =>
      obtain ⟨d, hmetric, rfl⟩ := Option.map_eq_some_iff.mp hd
      rw [List.map_cons, ← ih, hdistance _ _ d hmetric]

theorem eq_of_id_eq (hids : (centroids.map Centroid.id).Nodup) {first second : Centroid}
    (hfirst : first ∈ centroids) (hsecond : second ∈ centroids) (h : first.id = second.id) :
    first = second :=
  List.inj_on_of_nodup_map hids hfirst hsecond h

/-- The centroid that is chosen is at most as far as any other. -/
theorem HasDistance.distance_le_of_nearest? (hdistance : store.HasDistance distance)
    (hnumber : ∀ a b, (distance a b).isNaN = false) (hids : (centroids.map Centroid.id).Nodup)
    {id : Nat} {d : Float} (h : store.nearest? position centroids = some (id, d))
    {chosen other : Centroid} (hchosen : chosen ∈ centroids) (hid : chosen.id = id)
    (hother : other ∈ centroids) :
    distance position chosen.position ≤ distance position other.position := by
  obtain ⟨measured, hmeasured, hnearest⟩ := Option.map_eq_some_iff.mp h
  have hlist := hdistance.distances?_eq hmeasured
  have hentry : (other.id, distance position other.position) ∈ measured := by
    rw [hlist]
    exact List.mem_map_of_mem hother
  have hnot : ¬ distance position other.position < d := by
    have := not_lt_nearestOf hentry
    rwa [hnearest] at this
  rcases nearestOf_mem_or measured with hmem | hinfinite
  · rw [hnearest, hlist] at hmem
    obtain ⟨found, hfound, heq⟩ := List.mem_map.mp hmem
    obtain ⟨hfoundid, rfl⟩ := Prod.mk.inj heq
    have hsame : found = chosen := eq_of_id_eq hids hfound hchosen (hfoundid.trans hid.symm)
    rw [← hsame]
    exact Number.le_of_not_lt (hnumber _ _) (hnumber _ _) hnot
  · -- All distances are infinite.
    rw [hnearest] at hinfinite
    obtain ⟨-, rfl⟩ := Prod.mk.inj hinfinite
    exact Number.le_trans (Number.le_infiniteDistance (hnumber _ _))
      (Number.le_of_not_lt Number.isNaN_infiniteDistance (hnumber _ _) hnot)

end PointStore

end SampledKmeans
