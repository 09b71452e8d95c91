import Mathlib.Algebra.Order.BigOperators.Group.List
import Mathlib.Algebra.BigOperators.Group.Finset.Basic
import Mathlib.Algebra.Group.Nat.Even
import Mathlib.Algebra.Order.Ring.Nat
import SampledKmeans.Proofs.Refinement.Rearrangement

/-!
# What a change fraction measures

The cluster counts of two lists of labels are compared cluster by cluster, and the
differences are added up.  When the two lists label the same points, the sum says
how many points must have moved.

* **Counts add up.**  Labels in range are all counted, so that both lists of counts
  have the same sum (`sum_count_clusterLabels`).  What some clusters lose others
  gain, and the sum of the differences is even (`even_countGap`).
* **Points that move.**  A cluster's count changes by the points that arrive less
  the points that leave (`count_add_arrivals`), and every point that moves leaves one
  cluster and arrives at one.  The sum is at most twice the number of these points
  (`countGap_le`), and hence no sum of two lists for which there is room starts again
  from zero.
* **Symmetries.**  Each difference is the same in both directions, counts do not know
  the order of the points, and other numbers for the clusters permute the differences.
-/

namespace SampledKmeans

/-! ## The sum of the differences -/

/-- By how much two counts differ. -/
def countsApart (a b : Nat) : Nat :=
  (a - b) + (b - a)

/-- The sum over the clusters by how much their counts differ, however large. -/
def countGap (before after : List Nat) : Nat :=
  ((before.zip after).map fun (a, b) => countsApart a b).sum

theorem countDifference_eq (before after : List Nat) :
    countDifference before after = wrapCount (countGap before after) := by
  rw [countDifference, countGap, List.sum_eq_foldl, List.foldl_map]
  rfl

/-- The number of points with each label. -/
def countsOf (k : Nat) (labels : List Nat) : List Nat :=
  (clusterLabels k).map fun label => labels.count label

open Progress

variable {k : Nat} {before after : List Nat}

theorem countGap_countsOf (k : Nat) (before after : List Nat) :
    countGap (countsOf k before) (countsOf k after) =
      ((clusterLabels k).map fun label =>
        countsApart (before.count label) (after.count label)).sum := by
  rw [countGap, countsOf, countsOf, List.zip_map', List.map_map]
  rfl

/-- Labels in range are counted once each. -/
theorem sum_count_clusterLabels {labels : List Nat}
    (h : ∀ label ∈ labels, label ∈ clusterLabels k) :
    ((clusterLabels k).map fun label => labels.count label).sum = labels.length := by
  have hnodup : (clusterLabels k).Nodup := (clusterLabels_pairwise k).imp Nat.ne_of_lt
  have hmem : ∀ label ∈ (labels : Multiset Nat), label ∈ (clusterLabels k).toFinset :=
    fun label hlabel => List.mem_toFinset.mpr (h label (Multiset.mem_coe.mp hlabel))
  have hcard := Multiset.sum_count_eq_card hmem
  simp only [Multiset.coe_count, Multiset.coe_card] at hcard
  rw [← List.sum_toFinset _ hnodup, hcard]

/-- The differences and twice the smaller counts make up the counts before and
after, which are as many. -/
theorem even_countGap (hlength : before.length = after.length)
    (hbefore : ∀ label ∈ before, label ∈ clusterLabels k)
    (hafter : ∀ label ∈ after, label ∈ clusterLabels k) :
    Even (countGap (countsOf k before) (countsOf k after)) := by
  let kept (label : Nat) : Nat := min (before.count label) (after.count label)
  have hpoint : ∀ label, countsApart (before.count label) (after.count label) +
      (kept label + kept label) = before.count label + after.count label := by
    intro label
    dsimp only [countsApart, kept]
    omega
  have hsum : countGap (countsOf k before) (countsOf k after) +
      (((clusterLabels k).map kept).sum + ((clusterLabels k).map kept).sum) =
        after.length + after.length :=
    calc
      _ = ((clusterLabels k).map fun label => before.count label + after.count label).sum := by
        rw [countGap_countsOf, ← List.sum_map_add, ← List.sum_map_add]
        simp only [hpoint]
      _ = before.length + after.length := by
        rw [List.sum_map_add, sum_count_clusterLabels hbefore, sum_count_clusterLabels hafter]
      _ = after.length + after.length := by rw [hlength]
  exact (Nat.even_add.mp (hsum ▸ Even.add_self _)).mpr (Even.add_self _)

/-! ## Points that move -/

/-- The labels of the positions at which two lists of labels differ: the one before
and the one after. -/
def relabelled (before after : List Nat) : List (Nat × Nat) :=
  (before.zip after).filter fun (a, b) => a ≠ b

theorem length_relabelled_le (before after : List Nat) :
    (relabelled before after).length ≤ after.length := by
  refine (List.length_filter_le _ _).trans ?_
  rw [List.length_zip]
  exact Nat.min_le_right ..

theorem fst_mem_of_mem_relabelled :
    ∀ label ∈ (relabelled before after).map Prod.fst, label ∈ before := by
  intro label hlabel
  obtain ⟨move, hmove, rfl⟩ := List.mem_map.mp hlabel
  exact (List.of_mem_zip (List.mem_of_mem_filter hmove)).1

theorem snd_mem_of_mem_relabelled :
    ∀ label ∈ (relabelled before after).map Prod.snd, label ∈ after := by
  intro label hlabel
  obtain ⟨move, hmove, rfl⟩ := List.mem_map.mp hlabel
  exact (List.of_mem_zip (List.mem_of_mem_filter hmove)).2

/-- A cluster has after the moves what it had before, less the points that left it
and with those that arrived. -/
theorem count_add_arrivals (hlength : before.length = after.length) (label : Nat) :
    before.count label + ((relabelled before after).map Prod.snd).count label =
      after.count label + ((relabelled before after).map Prod.fst).count label := by
  induction before generalizing after with
  | nil =>
      rw [List.length_nil, eq_comm, List.length_eq_zero_iff] at hlength
      rw [hlength]
      rfl
  | cons a before ih =>
      cases after with
      | nil => cases hlength
      | cons b after =>
          have hrest := ih (Nat.succ.inj hlength)
          by_cases h : a = b
          · have hstays : relabelled (a :: before) (b :: after) = relabelled before after := by
              simp [relabelled, h]
            rw [hstays, h, List.count_cons, List.count_cons]
            omega
          · have hmoves : relabelled (a :: before) (b :: after) =
                (a, b) :: relabelled before after := by
              simp [relabelled, h]
            rw [hmoves, List.map_cons, List.map_cons]
            simp only [List.count_cons]
            omega

/-- Every point that moves changes two counts, each by one. -/
theorem countGap_le (hlength : before.length = after.length)
    (hbefore : ∀ label ∈ before, label ∈ clusterLabels k)
    (hafter : ∀ label ∈ after, label ∈ clusterLabels k) :
    countGap (countsOf k before) (countsOf k after) ≤ 2 * (relabelled before after).length := by
  have hpoint : ∀ label ∈ clusterLabels k,
      countsApart (before.count label) (after.count label) ≤
        ((relabelled before after).map Prod.fst).count label +
          ((relabelled before after).map Prod.snd).count label := by
    intro label _
    have hbalance := count_add_arrivals hlength label
    unfold countsApart
    omega
  have hleft : ∀ label ∈ (relabelled before after).map Prod.fst, label ∈ clusterLabels k :=
    fun label hlabel => hbefore label (fst_mem_of_mem_relabelled label hlabel)
  have hentered : ∀ label ∈ (relabelled before after).map Prod.snd, label ∈ clusterLabels k :=
    fun label hlabel => hafter label (snd_mem_of_mem_relabelled label hlabel)
  calc
    _ = _ := countGap_countsOf k before after
    _ ≤ _ := List.sum_le_sum hpoint
    _ = (relabelled before after).length + (relabelled before after).length := by
      rw [List.sum_map_add, sum_count_clusterLabels hleft, sum_count_clusterLabels hentered,
        List.length_map, List.length_map]
    _ = 2 * (relabelled before after).length := (Nat.two_mul _).symm

theorem countGap_eq_zero_iff :
    countGap (countsOf k before) (countsOf k after) = 0 ↔
      ∀ label ∈ clusterLabels k, before.count label = after.count label := by
  have hapart : ∀ a b, countsApart a b = 0 ↔ a = b := by
    intro a b
    unfold countsApart
    omega
  rw [countGap_countsOf, List.sum_eq_zero_iff, List.forall_mem_map]
  simp only [hapart]

/-! ## Symmetries -/

theorem labelChange?_eq (hbefore : ∀ label ∈ before, label ∈ clusterLabels k)
    (hafter : ∀ label ∈ after, label ∈ clusterLabels k) :
    labelChange? k before after =
      some (changeFraction (countsOf k before) (countsOf k after) after.length) := by
  rw [labelChange?, labelCounts?_eq_some hbefore, labelCounts?_eq_some hafter]
  rfl

/-- A change fraction depends on nothing but the sum of the differences and the number
of points. -/
theorem changeFraction_congr {counts counts' other other' : List Nat} (total : Nat)
    (h : countGap counts counts' = countGap other other') :
    changeFraction counts counts' total = changeFraction other other' total := by
  simp only [changeFraction, countDifference_eq, h]

theorem countGap_countsOf_comm (k : Nat) (before after : List Nat) :
    countGap (countsOf k after) (countsOf k before) =
      countGap (countsOf k before) (countsOf k after) := by
  simp only [countGap_countsOf, countsApart, Nat.add_comm]

theorem labelChange?_of_perm {before' after' : List Nat} (hbefore : before'.Perm before)
    (hafter : after'.Perm after) (k : Nat) :
    labelChange? k before' after' = labelChange? k before after := by
  simp only [labelChange?, labelCounts?_eq_of_perm hbefore, labelCounts?_eq_of_perm hafter,
    hafter.length_eq]

/-- Other numbers for `k` clusters: the labels in another order. -/
def Renumbers (k : Nat) (rename : Nat → Nat) : Prop :=
  ((clusterLabels k).map rename).Perm (clusterLabels k)

section Renumbering

variable {rename : Nat → Nat} (hrename : Renumbers k rename)

include hrename

theorem Renumbers.mem {labels : List Nat} (h : ∀ label ∈ labels, label ∈ clusterLabels k) :
    ∀ label ∈ labels.map rename, label ∈ clusterLabels k := by
  intro label hlabel
  obtain ⟨old, hold, rfl⟩ := List.mem_map.mp hlabel
  exact hrename.mem_iff.mp (List.mem_map_of_mem (h old hold))

/-- A cluster keeps its points under its other number. -/
theorem Renumbers.count_map {labels : List Nat} (h : ∀ label ∈ labels, label ∈ clusterLabels k)
    {label : Nat} (hlabel : label ∈ clusterLabels k) :
    (labels.map rename).count (rename label) = labels.count label := by
  have hnodup : ((clusterLabels k).map rename).Nodup :=
    hrename.nodup_iff.mpr ((clusterLabels_pairwise k).imp Nat.ne_of_lt)
  rw [List.count, List.countP_map, List.count]
  refine List.countP_congr fun old hold => ?_
  simp only [Function.comp_apply, beq_iff_eq]
  exact ⟨fun heq => List.inj_on_of_nodup_map hnodup (h old hold) hlabel heq, congrArg rename⟩

theorem Renumbers.countGap_eq (hbefore : ∀ label ∈ before, label ∈ clusterLabels k)
    (hafter : ∀ label ∈ after, label ∈ clusterLabels k) :
    countGap (countsOf k (before.map rename)) (countsOf k (after.map rename)) =
      countGap (countsOf k before) (countsOf k after) := by
  let apart (label : Nat) : Nat :=
    countsApart ((before.map rename).count label) ((after.map rename).count label)
  calc
    _ = ((clusterLabels k).map apart).sum := countGap_countsOf k _ _
    _ = (((clusterLabels k).map rename).map apart).sum := (hrename.symm.map apart).sum_eq
    _ = ((clusterLabels k).map fun label =>
          countsApart (before.count label) (after.count label)).sum := by
      rw [List.map_map]
      refine congrArg List.sum (List.map_congr_left fun label hlabel => ?_)
      simp only [apart, Function.comp_apply, hrename.count_map hbefore hlabel,
        hrename.count_map hafter hlabel]
    _ = _ := (countGap_countsOf k before after).symm

end Renumbering

/-! ## What is measured -/

/-- From the second iteration on, what an iteration measures is the change from the
labels before it to its own. -/
theorem Progress.Sound.labelChange?_of_advance {σ ρ : Type} {store : PointStore σ ρ}
    {working : List Point} {progress next : Progress} {session session' : Session σ ρ}
    (hsound : progress.Sound working k) (hk : 0 < k) (hpos : 0 < progress.iterations)
    (h : (progress.advance store working).Answers session next session') :
    ∃ fraction, labelChange? k progress.labels next.labels = some fraction ∧
      next.changeTrace = progress.changeTrace ++ [fraction] := by
  obtain ⟨labels, counts, centroids, hlabels, hcounts, -, rfl⟩ := answers_advance_iff.mp h
  have hassigned := hsound.assigned hpos
  have hlabel := hsound.label_mem_of_labels? hk hlabels
  rw [hsound.length_centroids, labelCounts?_eq_some hlabel, Option.some.injEq] at hcounts
  refine ⟨_, labelChange?_eq hassigned.label_mem hlabel, ?_⟩
  rw [changeTrace_record_of_counted hassigned.counts_eq, ← hcounts,
    ← PointStore.length_of_labels? hlabels]
  rfl

/-- What the change fraction of two lists of labels for `k` clusters says about them,
given their counts. -/
structure MeasuresChange (k : Nat) (before after counts counts' : List Nat) : Prop where
  even : Even (countGap counts counts')
  /-- The sum is at most twice the number of positions with another label. -/
  le_moved : countGap counts counts' ≤ 2 * (relabelled before after).length
  moved_le : (relabelled before after).length ≤ after.length
  /-- Where there is room for twice the points, the sum does not start again from zero. -/
  fits : 2 * after.length ≤ maxCount → countDifference counts counts' = countGap counts counts'
  eq_zero_iff : countGap counts counts' = 0 ↔
    ∀ label ∈ clusterLabels k, before.count label = after.count label
  fraction_eq : 0 < after.length → labelChange? k before after =
    some (smaller (Float.ofNat (countDifference counts counts') / Float.ofNat after.length) 1.0)
  /-- It does not matter which labels were first. -/
  comm : labelChange? k after before = labelChange? k before after
  /-- Neither does the order of the labels in either list matter. -/
  of_perm : ∀ before' after', before'.Perm before → after'.Perm after →
    labelChange? k before' after' = labelChange? k before after
  /-- Nor does it matter how the clusters are numbered. -/
  of_renumbers : ∀ rename, Renumbers k rename →
    labelChange? k (before.map rename) (after.map rename) = labelChange? k before after

/-- The labels of the same points for `k` clusters, twice: both can be counted, and the
change of the counts is as `MeasuresChange` says. -/
theorem labelChange?_measures (k : Nat) {before after : List Nat}
    (hlength : before.length = after.length)
    (hbefore : ∀ label ∈ before, label ∈ clusterLabels k)
    (hafter : ∀ label ∈ after, label ∈ clusterLabels k) :
    ∃ counts counts', labelCounts? before k = some counts ∧
      labelCounts? after k = some counts' ∧
      (k ≤ maxNumbers →
        clusterCounts? before k = some counts ∧ clusterCounts? after k = some counts') ∧
      MeasuresChange k before after counts counts' := by
  have hcounts := labelCounts?_eq_some hbefore
  have hcounts' := labelCounts?_eq_some hafter
  have hle := countGap_le hlength hbefore hafter
  have hmoved := length_relabelled_le before after
  refine ⟨countsOf k before, countsOf k after, hcounts, hcounts', fun hk => ?_, ?_⟩
  · rw [clusterCounts?_of_le before hk, clusterCounts?_of_le after hk]
    exact ⟨hcounts, hcounts'⟩
  · exact {
      even := even_countGap hlength hbefore hafter
      le_moved := hle
      moved_le := hmoved
      fits := fun hroom => by rw [countDifference_eq, wrapCount_of_le (by omega)]
      eq_zero_iff := countGap_eq_zero_iff
      fraction_eq := by
        intro hpos
        rw [labelChange?_eq hbefore hafter, changeFraction, if_neg hpos.ne']
      comm := by
        rw [labelChange?_eq hafter hbefore, labelChange?_eq hbefore hafter, hlength,
          changeFraction_congr _ (countGap_countsOf_comm k before after)]
      of_perm := fun _ _ hbefore hafter => labelChange?_of_perm hbefore hafter k
      of_renumbers := by
        intro rename hrename
        rw [labelChange?_eq (hrename.mem hbefore) (hrename.mem hafter),
          labelChange?_eq hbefore hafter, List.length_map,
          changeFraction_congr _ (hrename.countGap_eq hbefore hafter)] }

/-- Two of five points move, and both into the second of three clusters. -/
theorem labelChange?_measures_moving :
    let before := [1, 1, 2, 3, 3]
    let after := [1, 2, 2, 3, 2]
    before.length = after.length ∧ (∀ label ∈ before, label ∈ clusterLabels 3) ∧
      (∀ label ∈ after, label ∈ clusterLabels 3) ∧
      relabelled before after = [(1, 2), (3, 2)] ∧
      countGap [2, 1, 2] [1, 3, 1] = 4 ∧
      labelChange? 3 before after = some 0.8 ∧
      MeasuresChange 3 before after [2, 1, 2] [1, 3, 1] := by
  intro before after
  have hlength : before.length = after.length := rfl
  have hbefore : ∀ label ∈ before, label ∈ clusterLabels 3 := by decide
  have hafter : ∀ label ∈ after, label ∈ clusterLabels 3 := by decide
  obtain ⟨_, _, hcounts, hcounts', -, hmeasures⟩ :=
    labelChange?_measures 3 hlength hbefore hafter
  obtain rfl := Option.some.inj hcounts
  obtain rfl := Option.some.inj hcounts'
  exact ⟨hlength, hbefore, hafter, rfl, rfl, by decide +kernel, hmeasures⟩

end SampledKmeans
