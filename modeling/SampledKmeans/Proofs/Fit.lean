import SampledKmeans.Fit
import SampledKmeans.Proofs.Nearest

/-!
# Goodness of fit without a session

Positions that are assigned to centroids have a goodness of fit in every session
alike, unless a distance is undefined.  The procedure could refuse two things: an
identifier that names no centroid, and to average over nothing.  Where neither is
the case it answers `fit?` (`goodnessOfFit_eq`).
-/

namespace SampledKmeans

theorem exists_find?_of_id_mem {centroids : List Centroid} {id : Nat}
    (h : id ∈ centroids.map Centroid.id) :
    ∃ c ∈ centroids, c.id = id ∧ centroids.find? (fun c => c.id == id) = some c := by
  obtain ⟨named, hnamed, hid⟩ := List.mem_map.mp h
  have hsome : (centroids.find? fun c => c.id == id).isSome = true :=
    List.find?_isSome.mpr ⟨named, hnamed, by simp [hid]⟩
  obtain ⟨c, hfound⟩ := Option.isSome_iff_exists.mp hsome
  exact ⟨c, List.mem_of_find?_eq_some hfound, by simpa using List.find?_some hfound, hfound⟩

theorem FitSum.isSome_mean? (sum : FitSum) : sum.mean?.isSome = (sum.count != 0) := by
  unfold mean?
  split_ifs with h <;> simp [h]

namespace PointStore

variable {σ ρ : Type} (store : PointStore σ ρ)

/-- The distance from a position to the centroid with the given identifier. -/
def distanceTo? (centroids : List Centroid) (position : SparseVector) (id : Nat) :
    Option Float :=
  (centroids.find? fun c => c.id == id).bind fun c => store.metric position c.position

/-- The goodness of fit of positions that are assigned to centroids. -/
def fit? (assigned : List (SparseVector × Nat)) (centroids : List Centroid) : Option Float :=
  (assigned.mapM fun entry => store.distanceTo? centroids entry.1 entry.2).bind fun distances =>
    (FitSum.ofDistances distances).mean?

variable {store} {centroids : List Centroid} {assigned : List (SparseVector × Nat)}

theorem distanceTo_eq {id : Nat} (hid : id ∈ centroids.map Centroid.id)
    (position : SparseVector) :
    store.distanceTo centroids position id =
      Procedure.expect (store.distanceTo? centroids position id) := by
  obtain ⟨c, -, -, hfound⟩ := exists_find?_of_id_mem hid
  rw [distanceTo, distanceTo?, hfound]
  rfl

/-- As many distances as there are positions, at least one. -/
theorem isSome_mean?_of_mapM (hne : assigned ≠ []) {distances : List Float}
    (h : (assigned.mapM fun entry => store.distanceTo? centroids entry.1 entry.2) =
      some distances) : (FitSum.ofDistances distances).mean?.isSome = true := by
  have hlength : assigned.length = distances.length := (forall₂_iff_mapM_eq_some.mp h).length_eq
  have hcount : distances.length ≠ 0 := by
    rw [← hlength]
    exact mt List.length_eq_zero_iff.mp hne
  rw [FitSum.isSome_mean?]
  exact bne_iff_ne.mpr hcount

theorem goodnessOfFit_eq (hne : assigned ≠ [])
    (hids : ∀ entry ∈ assigned, entry.2 ∈ centroids.map Centroid.id) :
    store.goodnessOfFit assigned centroids = Procedure.expect (store.fit? assigned centroids) := by
  have hmeasure : (assigned.mapM fun entry => store.distanceTo centroids entry.1 entry.2) =
      Procedure.expect
        (assigned.mapM fun entry => store.distanceTo? centroids entry.1 entry.2) := by
    rw [Procedure.expect_mapM]
    exact Procedure.mapM_congr fun entry hentry => distanceTo_eq (hids entry hentry) entry.1
  unfold goodnessOfFit fit?
  change ((assigned.mapM fun entry => store.distanceTo centroids entry.1 entry.2) >>= _) = _
  rw [hmeasure]
  cases hdistances : assigned.mapM fun entry => store.distanceTo? centroids entry.1 entry.2 with
  | none => rfl
  | some distances =>
      obtain ⟨fit, hfit⟩ := Option.isSome_iff_exists.mp (isSome_mean?_of_mapM hne hdistances)
      rw [Procedure.expect, pure_bind, Option.bind_some, hfit]
      rfl

/-- A goodness of fit that is missing misses a distance. -/
theorem exists_undefined_of_fit? (hne : assigned ≠ [])
    (hids : ∀ entry ∈ assigned, entry.2 ∈ centroids.map Centroid.id)
    (h : store.fit? assigned centroids = none) :
    ∃ entry ∈ assigned, ∃ c ∈ centroids, c.id = entry.2 ∧
      store.metric entry.1 c.position = none := by
  by_contra hdefined
  push Not at hdefined
  have hdistances : ∀ entry ∈ assigned, ∃ d,
      store.distanceTo? centroids entry.1 entry.2 = some d := by
    intro entry hentry
    obtain ⟨c, hc, hid, hfound⟩ := exists_find?_of_id_mem (hids entry hentry)
    rw [distanceTo?, hfound]
    exact Option.ne_none_iff_exists'.mp (hdefined entry hentry c hc hid)
  obtain ⟨distances, hmapM⟩ := exists_mapM_eq_some hdistances
  have hmean := isSome_mean?_of_mapM hne hmapM
  rw [fit?, hmapM, Option.bind_some] at h
  rw [h] at hmean
  cases hmean

end PointStore

end SampledKmeans
