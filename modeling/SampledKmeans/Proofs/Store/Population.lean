import Mathlib.Data.List.Nodup
import SampledKmeans.Proofs.Store.Serves
import SampledKmeans.Proofs.Vector.Balanced

/-!
# Populations as stores

A population answers every call, and with points of its own.  A sample holds as
many points as were asked for, or all of them.
-/

namespace SampledKmeans.Population

open Procedure

variable {σ ρ : Type} [Sampler ρ] {population : Population}

/-! ## Samples -/

theorem length_pointsAt {positions : List Nat} (h : ∀ i ∈ positions, i < population.size) :
    (population.pointsAt positions).length = positions.length := by
  induction positions with
  | nil => rfl
  | cons i positions ih =>
      obtain ⟨hi, hpositions⟩ := List.forall_mem_cons.mp h
      have hpoint : population.points[i]? = some population.points[i] :=
        Array.getElem?_eq_getElem hi
      rw [pointsAt, List.filterMap_cons_some hpoint, List.length_cons, List.length_cons]
      exact congrArg Nat.succ (ih hpositions)

theorem mem_of_mem_pointsAt {positions : List Nat} {p : Point}
    (h : p ∈ population.pointsAt positions) : p ∈ population.points.toList := by
  obtain ⟨i, -, hi⟩ := List.mem_filterMap.mp h
  exact Array.mem_toList_iff.mpr (Array.mem_of_getElem? hi)

/-- Different positions hold points with different identifiers. -/
theorem nodup_pointsAt {positions : List Nat} (h : positions.Nodup) :
    ((population.pointsAt positions).map Point.id).Nodup := by
  have hids : (population.pointsAt positions).map Point.id =
      positions.filterMap fun i => (population.points.toList.map Point.id)[i]? := by
    simp only [pointsAt, List.map_filterMap, List.getElem?_map, Array.getElem?_toList]
  rw [hids]
  refine List.Nodup.filterMap (fun i j id hi hj => ?_) h
  have hlt := (List.getElem?_eq_some_iff.mp hi).1
  exact (List.getElem?_inj hlt population.distinct).mp (hi.trans hj.symm)

/-- A sample has as many points as were asked for, or all of them. -/
theorem length_sample [LawfulSampler ρ] (population : Population) (n : Nat) (source : ρ) :
    (population.sample n source).1.length = min n population.size := by
  have hle := Nat.min_le_right n population.size
  exact (length_pointsAt (LawfulSampler.lt_of_mem_subset hle source)).trans
    (LawfulSampler.length_subset hle source)

/-! ## What a population supplies -/

/-- The positions of the points, in their order. -/
def positions (population : Population) : List SparseVector :=
  population.points.toList.map Point.position

theorem position_mem {p : Point} (h : p ∈ population.points.toList) :
    p.position ∈ population.positions :=
  List.mem_map_of_mem h

/-- Every call is answered, with positions of the population. -/
theorem supplies [LawfulSampler ρ] (hbalanced : ∀ v ∈ population.positions, v.Balanced)
    (hpos : 0 < population.size) {E : Failure → Prop} :
    (population.store : PointStore σ ρ).Supplies (· ∈ population.positions) E where
  sample n hn := by
    refine ensures_callRandom (fun source _ points hok => ?_) fun _ _ _ herror => nomatch herror
    obtain rfl : (population.sample n source).1 = points := Except.ok.inj hok
    refine ⟨fun p hp => position_mem (mem_of_mem_pointsAt hp), fun hnil => ?_⟩
    have hlength := population.length_sample n source
    rw [hnil, List.length_nil] at hlength
    omega
  scan := by
    refine ensures_call (fun _ items hok => ?_) fun _ _ herror => nomatch herror
    obtain rfl := Except.ok.inj hok
    refine ⟨List.forall_mem_map.mpr fun p hp => position_mem hp, fun hnil => ?_⟩
    rw [List.map_eq_nil_iff, ← List.length_eq_zero_iff, Array.length_toList] at hnil
    exact absurd hnil (Nat.ne_of_gt hpos)
  metric a b ha hb hnone := by
    obtain ⟨d, hd⟩ := (hbalanced a ha).exists_distance? (hbalanced b hb)
    cases hd.symm.trans hnone

end SampledKmeans.Population
