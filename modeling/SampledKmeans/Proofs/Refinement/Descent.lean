import Mathlib
import SampledKmeans.Proofs.Nearest.Least
import SampledKmeans.Proofs.Refinement.LastIteration

/-!
# Descent

A cost is given for representing one position by another.  The total cost of a
state is that of representing every working point by the centroid of its label.

An iteration lowers it in two halves.  Giving every point the label of its
nearest centroid lowers the cost point by point (`costAt_le_of_nearest`), if a
greater distance never costs less.  Moving the centroids lowers it cluster by
cluster (`costAt_le_of_least`), if a mean is a cheapest representative of the
positions it is the mean of.  A cluster without points costs nothing before and
after.
-/

namespace SampledKmeans

open Procedure

variable {G : Type*} [AddCommMonoid G]

/-- The cost of representing every point by the centroid of its label; `none`
when there is no such centroid. -/
def totalCost? (cost : SparseVector → SparseVector → G) (points : List Point) (labels : List Nat)
    (centroids : List Centroid) : Option G :=
  ((points.zip labels).mapM fun entry =>
    (centroids.find? fun c : Centroid => c.id = entry.2).map fun c =>
      cost entry.1.position c.position).map List.sum

/-- The cost of representing every point by the position of its label. -/
def costAt (cost : SparseVector → SparseVector → G) (home : Nat → SparseVector)
    (points : List Point) (labels : List Nat) : G :=
  ((points.zip labels).map fun entry => cost entry.1.position (home entry.2)).sum

variable {cost : SparseVector → SparseVector → G} {home home' : Nat → SparseVector}
  {points : List Point} {labels labels' : List Nat} {k : Nat}

/-! ## Numbered centroids -/

/-- The centroids with the labels of `k` clusters, each at its position. -/
def centroidsAt (home : Nat → SparseVector) (k : Nat) : List Centroid :=
  (clusterLabels k).map fun id => ⟨id, home id⟩

theorem map_id_centroidsAt (home : Nat → SparseVector) (k : Nat) :
    (centroidsAt home k).map Centroid.id = clusterLabels k := by
  simp [centroidsAt, Function.comp_def]

theorem length_centroidsAt (home : Nat → SparseVector) (k : Nat) :
    (centroidsAt home k).length = k := by
  simp [centroidsAt]

theorem centroidsAt_ne_nil (hk : 0 < k) : centroidsAt home k ≠ [] :=
  List.ne_nil_of_length_pos ((length_centroidsAt home k).symm ▸ hk)

theorem mem_centroidsAt (home : Nat → SparseVector) {label : Nat} (h : label ∈ clusterLabels k) :
    (⟨label, home label⟩ : Centroid) ∈ centroidsAt home k :=
  List.mem_map_of_mem h

theorem getElem?_centroidsAt {label : Nat} (h : label ∈ clusterLabels k) :
    (centroidsAt home k)[label - 1]? = some ⟨label, home label⟩ := by
  rw [centroidsAt, List.getElem?_map, getElem?_clusterLabels h, Option.map_some]

theorem find?_centroidsAt {label : Nat} (h : label ∈ clusterLabels k) :
    (centroidsAt home k).find? (fun c => c.id = label) = some ⟨label, home label⟩ := by
  have hsome : ((centroidsAt home k).find? fun c => c.id = label).isSome = true :=
    List.find?_isSome.mpr ⟨_, mem_centroidsAt home h, decide_eq_true rfl⟩
  obtain ⟨found, hfound⟩ := Option.isSome_iff_exists.mp hsome
  obtain ⟨id, -, rfl⟩ := List.mem_map.mp (List.mem_of_find?_eq_some hfound)
  have hid : id = label := by simpa using List.find?_some hfound
  rw [hfound, hid]

theorem totalCost?_centroidsAt (hlabels : ∀ label ∈ labels, label ∈ clusterLabels k) :
    totalCost? cost points labels (centroidsAt home k) = some (costAt cost home points labels) := by
  have hforall : (points.zip labels).mapM (fun entry =>
      ((centroidsAt home k).find? fun c : Centroid => c.id = entry.2).map fun c =>
        cost entry.1.position c.position) =
      some ((points.zip labels).map fun entry => cost entry.1.position (home entry.2)) := by
    rw [forall₂_iff_mapM_eq_some, List.forall₂_map_right_iff, List.forall₂_same]
    intro entry hmem
    have hlabel := hlabels entry.2 (List.of_mem_zip hmem).2
    rw [find?_centroidsAt hlabel, Option.map_some]
  rw [totalCost?, hforall, Option.map_some, costAt]

theorem Progress.Sound.exists_centroidsAt {working : List Point} {progress : Progress}
    (hsound : progress.Sound working k) : ∃ home, progress.centroids = centroidsAt home k := by
  have hposition : ∀ id, ∃ position, id ∈ clusterLabels k →
      progress.centroids[id - 1]? = some ⟨id, position⟩ := by
    intro id
    by_cases hid : id ∈ clusterLabels k
    · obtain ⟨position, hget⟩ := hsound.getElem?_centroids hid
      exact ⟨position, fun _ => hget⟩
    · exact ⟨.ofCoordinates [], fun h => absurd h hid⟩
  choose home hhome using hposition
  refine ⟨home, eq_of_getElem?_clusterLabels hsound.length_centroids (length_centroidsAt home k) ?_⟩
  intro id hid
  rw [hhome id hid, getElem?_centroidsAt hid]

theorem Progress.Sound.exists_totalCost? {working : List Point} {progress : Progress}
    (hsound : progress.Sound working k) (hpos : 0 < progress.iterations)
    (cost : SparseVector → SparseVector → G) :
    ∃ total, totalCost? cost working progress.labels progress.centroids = some total := by
  obtain ⟨home, hhome⟩ := hsound.exists_centroidsAt
  rw [hhome]
  exact ⟨_, totalCost?_centroidsAt (hsound.assigned hpos).label_mem⟩

/-! ## The cost by clusters -/

/-- The total cost is the sum over the clusters of what their members cost. -/
theorem costAt_eq_sum_clusters (hlabels : ∀ label ∈ labels, label ∈ clusterLabels k) :
    costAt cost home points labels =
      ∑ id ∈ Finset.Icc 1 k,
        ((labelledPositions points labels id).map fun x => cost x (home id)).sum := by
  induction points generalizing labels with
  | nil => simp [costAt, labelledPositions]
  | cons p points ih =>
      cases labels with
      | nil => simp [costAt, labelledPositions]
      | cons label labels =>
          obtain ⟨hlabel, hlabels⟩ := List.forall_mem_cons.mp hlabels
          have hmem : label ∈ Finset.Icc 1 k := Finset.mem_Icc.mpr (mem_clusterLabels.mp hlabel)
          -- The first point adds to the sum of its own cluster and to no other.
          have hmembers : ∀ id, ((labelledPositions (p :: points) (label :: labels) id).map
              fun x => cost x (home id)).sum =
                (if label = id then cost p.position (home id) else 0) +
                  ((labelledPositions points labels id).map fun x => cost x (home id)).sum := by
            intro id
            rw [labelledPositions_cons, List.map_append, List.sum_append]
            split_ifs <;> simp
          have hcost : costAt cost home (p :: points) (label :: labels) =
              cost p.position (home label) + costAt cost home points labels := List.sum_cons
          rw [hcost, ih hlabels, Finset.sum_congr rfl fun id _ => hmembers id,
            Finset.sum_add_distrib, Finset.sum_ite_eq, if_pos hmem]

/-! ## The two halves of an iteration -/

variable [PartialOrder G] [IsOrderedAddMonoid G]

theorem costAt_le_of_nearest (hlength : labels.length = points.length)
    (hlabels : ∀ label ∈ labels, label ∈ clusterLabels k)
    (hnearest : List.Forall₂ (fun (p : Point) label' => ∀ label ∈ clusterLabels k,
      cost p.position (home label') ≤ cost p.position (home label)) points labels') :
    costAt cost home points labels' ≤ costAt cost home points labels := by
  induction hnearest generalizing labels with
  | nil => exact le_rfl
  | @cons p label' points labels' hhead _ ih =>
      cases labels with
      | nil => exact absurd hlength (Nat.succ_ne_zero _).symm
      | cons label labels =>
          obtain ⟨hlabel, hlabels⟩ := List.forall_mem_cons.mp hlabels
          have htail := ih (Nat.succ.inj hlength) hlabels
          simp only [costAt, List.zip_cons_cons, List.map_cons, List.sum_cons]
          exact add_le_add (hhead label hlabel) htail

theorem costAt_le_of_least (hlength : labels.length = points.length)
    (hlabels : ∀ label ∈ labels, label ∈ clusterLabels k)
    (hleast : ∀ id ∈ labels,
      ((labelledPositions points labels id).map fun x => cost x (home' id)).sum ≤
        ((labelledPositions points labels id).map fun x => cost x (home id)).sum) :
    costAt cost home' points labels ≤ costAt cost home points labels := by
  rw [costAt_eq_sum_clusters hlabels, costAt_eq_sum_clusters hlabels]
  refine Finset.sum_le_sum fun id _ => ?_
  by_cases hmem : id ∈ labels
  · exact hleast id hmem
  · rw [← membersOf_eq, (membersOf_eq_nil_iff hlength).mpr hmem]
    exact le_rfl

/-! ## An iteration -/

/-- What makes refinement descend: every distance is a number, a greater distance
never costs less, and no position represents others at a lower cost than their
mean. -/
structure IsObjective (distance : SparseVector → SparseVector → Float)
    (mean : List SparseVector → Except Error SparseVector) (cost : Float → G) : Prop where
  isNaN_eq_false : ∀ a b, (distance a b).isNaN = false
  mono : ∀ x y : Float, x ≤ y → cost x ≤ cost y
  least : ∀ positions center, positions ≠ [] → mean positions = .ok center → ∀ other,
    (positions.map fun x => cost (distance x center)).sum ≤
      (positions.map fun x => cost (distance x other)).sum

section Iteration

variable {σ ρ : Type} {store : PointStore σ ρ} {working : List Point} {progress next : Progress}
  {session after : Session σ ρ} {distance : SparseVector → SparseVector → Float}
  {mean : List SparseVector → Except Error SparseVector} {cost : Float → G}

theorem PointStore.HasDistance.distance_le_of_labels? (hdistance : store.HasDistance distance)
    (hnumber : ∀ a b, (distance a b).isNaN = false) (hk : 0 < k) {labels : List Nat}
    (h : store.labels? working (centroidsAt home k) = some labels) :
    List.Forall₂ (fun (p : Point) label => ∀ other ∈ clusterLabels k,
      distance p.position (home label) ≤ distance p.position (home other)) working labels := by
  have hids : ((centroidsAt home k).map Centroid.id).Nodup := by
    rw [map_id_centroidsAt]
    exact List.Pairwise.imp Nat.ne_of_lt (clusterLabels_pairwise k)
  have hnearest := labels?_eq_some_iff.mp h
  refine List.Forall₂.imp (fun p label hnearest other hother => ?_) hnearest
  obtain ⟨d, hnearest⟩ := hnearest
  have hlabel : label ∈ clusterLabels k := by
    rw [← map_id_centroidsAt home]
    exact id_mem_of_nearest? (centroidsAt_ne_nil hk) hnearest
  -- The two centroids are given before their positions are compared.
  have hle := hdistance.distance_le_of_nearest? hnumber hids hnearest
    (mem_centroidsAt home hlabel) rfl (mem_centroidsAt home hother)
  exact hle

/-- An iteration after the first one does not raise the total cost. -/
theorem Progress.Sound.totalCost?_le_of_advance (hsound : progress.Sound working k) (hk : 0 < k)
    (hpos : 0 < progress.iterations) (hworking : working ≠ []) (hmean : store.HasMean mean)
    (hdistance : store.HasDistance distance) (hobjective : IsObjective distance mean cost)
    (h : (progress.advance store working).Answers session next after) :
    ∃ earlier later,
      totalCost? (fun a b => cost (distance a b)) working progress.labels progress.centroids =
        some earlier ∧
      totalCost? (fun a b => cost (distance a b)) working next.labels next.centroids =
        some later ∧ later ≤ earlier := by
  have hnext := hsound.advance hk hworking h
  have hassigned := hsound.assigned hpos
  have hassigned' := hnext.assigned_of_answers h
  obtain ⟨home, hhome⟩ := hsound.exists_centroidsAt
  obtain ⟨home', hhome'⟩ := hnext.exists_centroidsAt
  refine ⟨_, _, hhome ▸ totalCost?_centroidsAt hassigned.label_mem,
    hhome' ▸ totalCost?_centroidsAt hassigned'.label_mem, ?_⟩
  obtain ⟨labels, _, _, hlabels, -, -, heq⟩ := answers_advance_iff.mp h
  have hsame : next.labels = labels := congrArg Progress.labels heq
  rw [hhome, ← hsame] at hlabels
  have hnearest := hdistance.distance_le_of_labels? hobjective.isNaN_eq_false hk hlabels
  have hmean_eq : ∀ id ∈ next.labels,
      mean (labelledPositions working next.labels id) = .ok (home' id) := by
    intro id hid
    have hcluster := hassigned'.label_mem id hid
    obtain ⟨position, hget, haveraged, -⟩ := hsound.getElem?_of_advance hmean h hcluster
    rw [hhome', getElem?_centroidsAt hcluster] at hget
    cases hget
    exact haveraged hid
  calc costAt (fun a b => cost (distance a b)) home' working next.labels
    _ ≤ costAt (fun a b => cost (distance a b)) home working next.labels := by
      refine costAt_le_of_least hassigned'.length_labels hassigned'.label_mem fun id hid => ?_
      have hne : labelledPositions working next.labels id ≠ [] := by
        rw [← membersOf_eq, ne_eq, membersOf_eq_nil_iff hassigned'.length_labels]
        exact not_not_intro hid
      exact hobjective.least _ _ hne (hmean_eq id hid) (home id)
    _ ≤ costAt (fun a b => cost (distance a b)) home working progress.labels := by
      refine costAt_le_of_nearest hassigned.length_labels hassigned.label_mem (hnearest.imp ?_)
      intro p label hle other hother
      exact hobjective.mono _ _ (hle other hother)

end Iteration

/-! ## Modes

The simplest objective counts the points that differ from their centroid.  The
means that minimise it are the modes. -/

/-- Zero for equal positions and one for others. -/
def mismatch (a b : SparseVector) : Float :=
  if a = b then 0.0 else 1.0

/-- A most frequent position. -/
def modeOf (positions : List SparseVector) : Except Error SparseVector :=
  match positions.argmax fun x => positions.countP (· = x) with
  | some mode => .ok mode
  | none => .error .emptyInput

/-- One for a mismatch. -/
def mismatchCost (d : Float) : ℤ :=
  if d < 1.0 then 0 else 1

/-- An empty store whose centroids are modes. -/
def modesStore : PointStore Unit SplitMix :=
  { Population.empty.store with
    metric := fun a b => some (mismatch a b)
    mean := fun positions state => ({ outcome := modeOf positions }, state) }

theorem sum_mismatchCost (positions : List SparseVector) (center : SparseVector) :
    (positions.map fun x => mismatchCost (mismatch x center)).sum =
      positions.length - positions.countP (· = center) := by
  have hzero : mismatchCost 0.0 = 0 := by decide +kernel
  have hone : mismatchCost 1.0 = 1 := by decide +kernel
  induction positions with
  | nil => rfl
  | cons x positions ih =>
      rw [List.map_cons, List.sum_cons, ih, List.length_cons, List.countP_cons]
      by_cases h : x = center
      · have hcost : mismatchCost (mismatch x center) = 0 := by rw [mismatch, if_pos h, hzero]
        rw [hcost, if_pos (decide_eq_true h)]
        push_cast
        ring
      · have hcost : mismatchCost (mismatch x center) = 1 := by rw [mismatch, if_neg h, hone]
        rw [hcost, if_neg (mt of_decide_eq_true h)]
        push_cast
        ring

theorem isObjective_modeOf : IsObjective mismatch modeOf mismatchCost where
  isNaN_eq_false a b := by
    unfold mismatch
    split_ifs <;> decide +kernel
  mono x y h := by
    unfold mismatchCost
    split_ifs with hx hy
    · exact le_rfl
    · exact zero_le_one
    · exact absurd (Number.lt_of_le_of_lt h ‹_›) hx
    · exact le_rfl
  least positions center _ hcenter other := by
    rw [sum_mismatchCost, sum_mismatchCost]
    have hmode : center ∈ positions.argmax fun x => positions.countP (· = x) := by
      unfold modeOf at hcenter
      split at hcenter
      · cases hcenter
        assumption
      · cases hcenter
    have hcount : positions.countP (· = other) ≤ positions.countP (· = center) := by
      by_cases hmem : other ∈ positions
      · exact List.le_of_mem_argmax hmem hmode
      · have hzero : positions.countP (· = other) = 0 :=
          List.countP_eq_zero.mpr fun x hx h => hmem (of_decide_eq_true h ▸ hx)
        omega
    omega

/-! ## A run -/

namespace Limits

variable {σ ρ : Type} {store : PointStore σ ρ} {limits : Limits} {stop : StopSignal σ}
  {working : List Point} {seeds : List Centroid} {session between after : Session σ ρ}
  {progress next : Progress} {distance : SparseVector → SparseVector → Float}
  {mean : List SparseVector → Except Error SparseVector} {cost : Float → G}

/-- From the first iteration on the total cost of a run never rises. -/
theorem totalCost_le_of_reaches (hadmits : limits.Admits working seeds)
    (hmean : store.HasMean mean) (hdistance : store.HasDistance distance)
    (hobjective : IsObjective distance mean cost)
    (hearlier : limits.Reaches store stop working seeds session progress between)
    (hpos : 0 < progress.iterations)
    (hlater : limits.Reaches store stop working seeds session next after)
    (hle : progress.iterations ≤ next.iterations) :
    ∃ earlier later,
      totalCost? (fun a b => cost (distance a b)) working progress.labels progress.centroids =
        some earlier ∧
      totalCost? (fun a b => cost (distance a b)) working next.labels next.centroids =
        some later ∧ later ≤ earlier := by
  induction hlater with
  | start => exact absurd (Nat.lt_of_lt_of_le hpos hle) (Nat.lt_irrefl 0)
  | @next previous next _ _ hreaches hgoesOn hanswers ih =>
      have hcount := Progress.iterations_of_answers hanswers
      rcases Nat.lt_or_eq_of_le hle with hlt | heq
      · obtain ⟨earlier, middle, hearlier, hmiddle, hfirst⟩ := ih (by omega)
        obtain ⟨middle', later, hmiddle', hlater, hlast⟩ :=
          (hreaches.sound_of_admits hadmits).totalCost?_le_of_advance hadmits.seeds_pos (by omega)
            hadmits.working_ne_nil hmean hdistance hobjective hanswers
        obtain rfl : middle' = middle := Option.some.inj (hmiddle'.symm.trans hmiddle)
        exact ⟨earlier, later, hearlier, hlater, hlast.trans hfirst⟩
      · -- After the same number of iterations a run is in the same state.
        obtain rfl := hearlier.eq_of_iterations_eq hmean (hreaches.next hgoesOn hanswers) heq
        obtain ⟨total, htotal⟩ := (hearlier.sound_of_admits hadmits).exists_totalCost? hpos
          fun a b => cost (distance a b)
        exact ⟨total, total, htotal, htotal, le_rfl⟩

/-- A centroid that had no points takes over two points in the second iteration. -/
theorem totalCost_le_of_reaches_modes :
    let session : Session Unit SplitMix := { store := (), random := {} }
    let working := pointsOnLine [1.0, 1.0, 2.0, 3.0, 3.0, 3.0]
    let seeds := centroidsOnLine [1.0, 1.0]
    let cost := fun a b => mismatchCost (mismatch a b)
    IsObjective mismatch modeOf mismatchCost ∧ ∃ progress next between after,
      ({} : Limits).Reaches modesStore .never working seeds session progress between ∧
        progress.iterations = 1 ∧
        ({} : Limits).Reaches modesStore .never working seeds session next after ∧
        next.iterations = 2 ∧
        totalCost? cost working progress.labels progress.centroids = some 3 ∧
        totalCost? cost working next.labels next.centroids = some 1 ∧ (1 : ℤ) ≤ 3 := by
  intro session working seeds cost
  have hadmits : ({} : Limits).Admits working seeds :=
    ⟨List.cons_ne_nil _ _, List.cons_ne_nil _ _, by decide, rfl⟩
  have hmean : modesStore.HasMean modeOf := fun _ _ => rfl
  have hdistance : modesStore.HasDistance mismatch := fun _ _ _ h => (Option.some.inj h).symm
  let first : Progress := {
    iterations := 1, centroids := centroidsOnLine [3.0, 1.0], labels := [1, 1, 1, 1, 1, 1],
    counts := some [6, 0], changeTrace := [], dead := [2] }
  let second : Progress := {
    iterations := 2, centroids := centroidsOnLine [3.0, 1.0], labels := [2, 2, 1, 1, 1, 1],
    counts := some [4, 2], changeTrace := [4.0 / 6.0], dead := [] }
  have hfirst : ({} : Limits).Reaches modesStore .never working seeds session first _ :=
    .next .start (by decide +kernel) (answers_of_outcome_eq (by decide +kernel))
  have hsecond : ({} : Limits).Reaches modesStore .never working seeds session second _ :=
    .next hfirst (by decide +kernel) (answers_of_outcome_eq (by decide +kernel))
  have hthree : totalCost? cost working first.labels first.centroids = some 3 := by decide +kernel
  have hone : totalCost? cost working second.labels second.centroids = some 1 := by decide +kernel
  obtain ⟨earlier, later, hearlier, hlater, hle⟩ := totalCost_le_of_reaches hadmits hmean
    hdistance isObjective_modeOf hfirst (by decide) hsecond (by decide)
  obtain rfl : earlier = 3 := Option.some.inj (hearlier.symm.trans hthree)
  obtain rfl : later = 1 := Option.some.inj (hlater.symm.trans hone)
  exact ⟨isObjective_modeOf, first, second, _, _, hfirst, rfl, hsecond, rfl, hthree, hone, hle⟩

end Limits

end SampledKmeans
