import SampledKmeans.Proofs.Expansion.OnePass
import SampledKmeans.Proofs.Fit
import SampledKmeans.Proofs.Number.Finite

/-!
# The goodness of fit of an expansion

An expansion adds up the distances that its choices came with, and the goodness of
fit of its assignments looks every centroid up again and measures anew.  The two
agree because a choice comes with the distance of the centroid that it names
(`exists_mem_nearestBy`): where distances are numbers, this is so even for a centroid
that was chosen for want of a nearer one, since its distance then is infinity, too.
What an identifier names is unique as long as no two centroids share it.
-/

namespace SampledKmeans

variable {σ ρ : Type} {store : PointStore σ ρ} {centroids : List Centroid}
  {distance : SparseVector → SparseVector → Float} {session opened : Session σ ρ}
  {items : List (Reply Point)} {points : List Point}

theorem exists_mem_nearestBy {position : SparseVector} (hne : centroids ≠ [])
    (hnumbers : ∀ c ∈ centroids, (distance position c.position).isNaN = false) :
    ∃ c ∈ centroids,
      nearestBy distance position centroids = (c.id, distance position c.position) := by
  obtain ⟨first, rest, rfl⟩ := List.exists_cons_of_ne_nil hne
  rcases nearestBy_cases distance position first rest with
    ⟨hnearest, hfar⟩ | ⟨before, chosen, after, hsplit, hnearest, -, -⟩
  · have hfirst := Number.eq_infiniteDistance_of_not_lt (hnumbers first List.mem_cons_self)
      (hfar first List.mem_cons_self)
    exact ⟨first, List.mem_cons_self, by rw [hnearest, hfirst]⟩
  · exact ⟨chosen, hsplit ▸ List.mem_append_right _ List.mem_cons_self, hnearest⟩

theorem find?_id_of_nodup (hids : (centroids.map Centroid.id).Nodup) {c : Centroid}
    (hc : c ∈ centroids) : centroids.find? (fun other => other.id == c.id) = some c := by
  obtain ⟨found, hfound, hid, hfind⟩ := exists_find?_of_id_mem (List.mem_map_of_mem hc)
  rw [hfind, List.inj_on_of_nodup_map hids hfound hc hid]

namespace PointStore

/-- The centroid that a choice names is at the distance that the choice comes with. -/
theorem distanceTo?_nearestBy {position : SparseVector} (hne : centroids ≠ [])
    (hids : (centroids.map Centroid.id).Nodup)
    (hmeasures : store.Measures distance position centroids)
    (hnumbers : ∀ c ∈ centroids, (distance position c.position).isNaN = false) :
    store.distanceTo? centroids position (nearestBy distance position centroids).1 =
      some (nearestBy distance position centroids).2 := by
  obtain ⟨c, hc, hnearest⟩ := exists_mem_nearestBy hne hnumbers
  rw [hnearest, distanceTo?, find?_id_of_nodup hids hc, Option.bind_some, hmeasures c hc]

/-- Of points whose distances are numbers, an expansion in one pass has the goodness
of fit of its assignments. -/
theorem fit?_plain (hne : centroids ≠ []) (hids : (centroids.map Centroid.id).Nodup)
    (hsome : points ≠ [])
    (hmeasures : ∀ p ∈ points, store.Measures distance p.position centroids)
    (hnumbers : ∀ p ∈ points, ∀ c ∈ centroids, (distance p.position c.position).isNaN = false) :
    store.fit? ((Expansion.plain distance centroids true points).assignments.map fun a =>
      (a.position, a.centroidId)) centroids =
        (Expansion.plain distance centroids true points).fit := by
  have hdistances : (((Expansion.plain distance centroids true points).assignments.map fun a =>
      (a.position, a.centroidId)).mapM fun entry => store.distanceTo? centroids entry.1 entry.2) =
        some (points.map fun p => (nearestBy distance p.position centroids).2) := by
    rw [Expansion.plain, List.map_map, forall₂_iff_mapM_eq_some, List.forall₂_map_left_iff,
      List.forall₂_map_right_iff, List.forall₂_same]
    intro p hp
    exact distanceTo?_nearestBy hne hids (hmeasures p hp) (hnumbers p hp)
  have hcount : points.length ≠ 0 := mt List.length_eq_zero_iff.mp hsome
  rw [fit?, hdistances, Option.bind_some, FitSum.mean?, FitSum.ofDistances, List.length_map,
    if_neg hcount, Expansion.plain, if_pos ⟨rfl, hsome⟩]

theorem id_mem_of_plain (hne : centroids ≠ [])
    (hnumbers : ∀ p ∈ points, ∀ c ∈ centroids, (distance p.position c.position).isNaN = false)
    {withFit : Bool} {entry : SparseVector × Nat}
    (h : entry ∈ (Expansion.plain distance centroids withFit points).assignments.map fun a =>
      (a.position, a.centroidId)) : entry.2 ∈ centroids.map Centroid.id := by
  rw [Expansion.plain, List.map_map] at h
  obtain ⟨p, hp, rfl⟩ := List.mem_map.mp h
  obtain ⟨c, hc, hnearest⟩ := exists_mem_nearestBy hne (hnumbers p hp)
  change (nearestBy distance p.position centroids).1 ∈ _
  rw [hnearest]
  exact List.mem_map_of_mem hc

/-- Distances that are numbers, infinite ones among them, and centroids whose
identifiers differ, in whatever order: the goodness of fit that an expansion answers
is the one of its assignments, to the last bit. -/
theorem goodnessOfFit_expand (hne : centroids ≠ []) (hids : (centroids.map Centroid.id).Nodup)
    (hopen : store.openScan.Answers session items opened)
    (hpoints : items.map Reply.outcome = points.map .ok) (hsome : points ≠ [])
    (hmeasures : store.MeasuresScan distance items centroids)
    (hnumbers : ∀ p ∈ points, ∀ c ∈ centroids, (distance p.position c.position).isNaN = false) :
    ∃ expansion fit, (store.expand true centroids).Answers session expansion opened ∧
      expansion.fit = some fit ∧
      ∀ session', (store.goodnessOfFit
        (expansion.assignments.map fun a => (a.position, a.centroidId)) centroids).Answers session'
          fit session' := by
  have hexpand := runIn_expand hne hopen hmeasures true
  rw [collect_eq_ok_iff.mpr hpoints] at hexpand
  obtain ⟨fit, hfit⟩ : ∃ fit, (Expansion.plain distance centroids true points).fit = some fit :=
    ⟨_, if_pos ⟨rfl, hsome⟩⟩
  refine ⟨_, fit, hexpand, hfit, fun session' => ?_⟩
  rw [goodnessOfFit_eq (by simpa [Expansion.plain] using hsome)
    (fun _ hentry => id_mem_of_plain hne hnumbers hentry),
    fit?_plain hne hids hsome (fun _ hp => hmeasures.of_mem hpoints hp) hnumbers,
    Procedure.answers_expect_iff]
  exact ⟨hfit, rfl⟩

/-- The first centroid is infinitely far away, the other two are equally near, and the
identifiers are out of order; to one of the points all centroids are infinitely far. -/
theorem goodnessOfFit_expand_tied :
    let distance : SparseVector → SparseVector → Float := fun a b =>
      if a.isZero then 1.0 / 0.0 else b.values.headD (1.0 / 0.0)
    let points : List Point := [⟨1, .ofCoordinates [(0, 3.0)]⟩, ⟨2, .ofCoordinates []⟩]
    let store : PointStore Unit SplitMix :=
      { Population.empty.store with
        metric := fun a b => some (distance a b)
        scan := fun state => (.ok (points.map fun p => .ok p), state) }
    let centroids : List Centroid :=
      [⟨7, .ofCoordinates []⟩, ⟨5, .ofCoordinates [(0, 2.0)]⟩, ⟨2, .ofCoordinates [(0, 2.0)]⟩]
    let session : Session Unit SplitMix := { store := (), random := {} }
    (store.expand true centroids).outcome session = .ok
        { assignments := [⟨1, .ofCoordinates [(0, 3.0)], 5⟩, ⟨2, .ofCoordinates [], 7⟩]
          fit := some infiniteDistance } ∧
      ∀ session', (store.goodnessOfFit [(.ofCoordinates [(0, 3.0)], 5), (.ofCoordinates [], 7)]
        centroids).Answers session' infiniteDistance session' := by
  intro distance points store centroids session
  have hopen : store.openScan.Answers session (points.map fun p => .ok p) session := rfl
  have hmeasures : store.MeasuresScan distance (points.map fun p => .ok p) centroids :=
    fun _ _ _ _ _ _ => rfl
  have hnumbers : ∀ p ∈ points, ∀ c ∈ centroids,
      (distance p.position c.position).isNaN = false := by decide +kernel
  have hexpands : (store.expand true centroids).outcome session = .ok
      { assignments := [⟨1, .ofCoordinates [(0, 3.0)], 5⟩, ⟨2, .ofCoordinates [], 7⟩]
        fit := some infiniteDistance } := by decide +kernel
  obtain ⟨expansion, fit, hanswers, hfit, hmeasured⟩ := goodnessOfFit_expand
    (List.cons_ne_nil _ _) (by decide) hopen rfl (List.cons_ne_nil _ _) hmeasures hnumbers
  rw [hanswers.outcome_eq] at hexpands
  obtain rfl := Except.ok.inj hexpands
  obtain rfl := Option.some.inj hfit
  exact ⟨hanswers.outcome_eq, hmeasured⟩

end PointStore

end SampledKmeans
