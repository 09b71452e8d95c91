import Mathlib.Data.List.Nodup
import Mathlib.Data.List.Perm.Subperm
import Mathlib.Tactic.SplitIfs
import SampledKmeans.Random.Subset

/-!
# What subsets consist of

Whichever way a subset is drawn, it has as many positions as were asked for, all of
them are below the bound (`subset_bounds`), and none is drawn twice (`nodup_subset`).
That holds of every random source, so that its sampler is lawful.
-/

namespace SampledKmeans.RandomSource

variable {ρ : Type} [RandomSource ρ]

/-! ## Single draws -/

/-- A word scaled to a range lies below it.  In the last place there is no room
left for the carry of the next word. -/
theorem below_lt {range : Nat} (h : 0 < range) (source : ρ) : (below range source).1 < range := by
  have hscaled : ∀ word : UInt32, word.toNat * range ≤ (2 ^ 32 - 1) * range := fun word =>
    Nat.mul_le_mul_right range (Nat.le_of_lt_succ word.toNat_lt)
  have hfirst := hscaled (word32 source).1
  have hsecond := hscaled (word32 (word32 source).2).1
  unfold below
  dsimp only
  split_ifs <;> dsimp only <;> omega

theorem lt_of_attempt {range p : Nat} {source after : ρ} (h : 0 < range)
    (hattempt : attempt range source = (some p, after)) : p < range := by
  have hscaled := Nat.mul_lt_mul_of_pos_right (word32 source).1.toNat_lt h
  unfold attempt at hattempt
  dsimp only at hattempt
  split_ifs at hattempt
  · cases hattempt
  · cases hattempt
    omega

/-! ## Ranges that grow -/

theorem growStep_bounds {chosen : List Nat} {j : Nat} (h : ∀ p ∈ chosen, p < j) (source : ρ) :
    (growStep chosen j source).1.length = chosen.length + 1 ∧
      ∀ p ∈ (growStep chosen j source).1, p < j + 1 := by
  have hdraw := below_lt (Nat.succ_pos j) source
  unfold growStep
  dsimp only
  refine ⟨by split_ifs <;> simp, fun p hp => ?_⟩
  rcases List.mem_append.mp hp with hp | hp
  · split_ifs at hp
    · obtain ⟨q, hq, rfl⟩ := List.mem_map.mp hp
      have := h q hq
      split_ifs <;> omega
    · exact Nat.lt_succ_of_lt (h p hp)
  · exact List.mem_singleton.mp hp ▸ hdraw

/-- A position that is drawn again has been replaced by one that is too large to have been
drawn before. -/
theorem nodup_growStep {chosen : List Nat} {j : Nat} (hnodup : chosen.Nodup)
    (h : ∀ p ∈ chosen, p < j) (source : ρ) : (growStep chosen j source).1.Nodup := by
  unfold growStep
  dsimp only
  generalize (below (j + 1) source).1 = t
  rw [List.nodup_append]
  split_ifs with ht
  · have htj := h t ht
    refine ⟨hnodup.map_on fun p hp q hq heq => ?_, List.nodup_singleton t, ?_⟩
    · have hpj := h p hp
      have hqj := h q hq
      split_ifs at heq <;> omega
    · intro p hp q hq
      obtain ⟨old, -, rfl⟩ := List.mem_map.mp hp
      rw [List.mem_singleton.mp hq]
      split_ifs <;> omega
  · refine ⟨hnodup, List.nodup_singleton t, ?_⟩
    rintro p hp q hq rfl
    exact ht (List.mem_singleton.mp hq ▸ hp)

theorem growing_bounds {amount start : Nat} {chosen : List Nat} (h : ∀ p ∈ chosen, p < start)
    (source : ρ) :
    (growing amount start chosen source).1.length = chosen.length + amount ∧
      ∀ p ∈ (growing amount start chosen source).1, p < start + amount := by
  -- The bound grows with the positions: what was chosen lies below `start`.
  induction amount generalizing start chosen source with
  | zero => exact ⟨rfl, h⟩
  | succ amount ih =>
      obtain ⟨hlength, hbound⟩ := growStep_bounds h source
      obtain ⟨hlength', hbound'⟩ := ih hbound (growStep chosen start source).2
      rw [growing]
      exact ⟨by rw [hlength', hlength]; omega, fun p hp => by have := hbound' p hp; omega⟩

theorem nodup_growing {amount start : Nat} {chosen : List Nat} (hnodup : chosen.Nodup)
    (h : ∀ p ∈ chosen, p < start) (source : ρ) :
    (growing amount start chosen source).1.Nodup := by
  induction amount generalizing start chosen source with
  | zero => exact hnodup
  | succ amount ih =>
      rw [growing]
      exact ih (nodup_growStep hnodup h source) (growStep_bounds h source).2 _

/-! ## Shuffles that stop early -/

theorem perm_shuffle (amount start : Nat) (positions : Array Nat) (source : ρ) :
    (shuffle amount start positions source).1.Perm positions := by
  induction amount generalizing start positions source with
  | zero => exact .refl positions
  | succ amount ih =>
      rw [shuffle]
      refine (ih _ _ _).trans ?_
      unfold Array.swapIfInBounds
      split_ifs
      · exact Array.swap_perm ..
      · exact .refl positions
      · exact .refl positions

theorem shuffled_bounds {n amount : Nat} (h : amount ≤ n) (source : ρ) :
    (shuffled n amount source).1.length = amount ∧ ∀ p ∈ (shuffled n amount source).1, p < n := by
  have hperm := (perm_shuffle amount 0 (Array.range n) source).toList
  rw [Array.toList_range] at hperm
  constructor
  · change (List.take amount _).length = amount
    rw [List.length_take, hperm.length_eq, List.length_range, Nat.min_eq_left h]
  · intro p hp
    exact List.mem_range.mp (hperm.mem_iff.mp (List.mem_of_mem_take hp))

theorem nodup_shuffled (n amount : Nat) (source : ρ) : (shuffled n amount source).1.Nodup := by
  have hperm := (perm_shuffle amount 0 (Array.range n) source).toList
  rw [Array.toList_range] at hperm
  exact (hperm.nodup_iff.mpr List.nodup_range).sublist (List.take_sublist _ _)

/-! ## Rejection -/

theorem fresh_lt {n : Nat} (h : 0 < n) (taken : List Nat) (tries : Nat) (source : ρ) :
    (fresh n taken tries source).1 < n := by
  induction tries generalizing source with
  | zero =>
      rw [fresh]
      dsimp only
      cases hfind : (List.range n).find? fun p => !taken.contains p with
      | none => exact h
      | some p => exact List.mem_range.mp (List.mem_of_find?_eq_some hfind)
  | succ tries ih =>
      rw [fresh]
      rcases hattempt : attempt n source with ⟨_ | p, after⟩
      · exact ih after
      · dsimp only
        split_ifs
        · exact ih after
        · exact lt_of_attempt h hattempt

theorem rejecting_bounds {n : Nat} (h : 0 < n) (amount : Nat) {taken : List Nat}
    (htaken : ∀ p ∈ taken, p < n) (source : ρ) :
    (rejecting n amount taken source).1.length = taken.length + amount ∧
      ∀ p ∈ (rejecting n amount taken source).1, p < n := by
  induction amount generalizing taken source with
  | zero => exact ⟨List.length_reverse, fun p hp => htaken p (List.mem_reverse.mp hp)⟩
  | succ amount ih =>
      rw [rejecting]
      have hnext : ∀ p ∈ (fresh n taken patience source).1 :: taken, p < n :=
        List.forall_mem_cons.mpr ⟨fresh_lt h taken patience source, htaken⟩
      obtain ⟨hlength, hbound⟩ := ih hnext (fresh n taken patience source).2
      exact ⟨by rw [hlength, List.length_cons]; omega, hbound⟩

/-- As long as not all positions are taken, the next one is new. -/
theorem fresh_not_mem {n : Nat} {taken : List Nat} (h : taken.length < n) (tries : Nat)
    (source : ρ) : (fresh n taken tries source).1 ∉ taken := by
  induction tries generalizing source with
  | zero =>
      rw [fresh]
      dsimp only
      cases hfind : (List.range n).find? fun p => !taken.contains p with
      | none =>
          have hsubset : List.range n ⊆ taken := by
            intro p hp
            simpa using List.find?_eq_none.mp hfind p hp
          have hle := (List.nodup_range.subperm hsubset).length_le
          rw [List.length_range] at hle
          omega
      | some p => simpa using List.find?_some hfind
  | succ tries ih =>
      rw [fresh]
      rcases attempt n source with ⟨_ | p, after⟩
      · exact ih after
      · dsimp only
        split_ifs with hp
        · exact ih after
        · simpa using hp

theorem nodup_rejecting {n amount : Nat} {taken : List Nat} (hnodup : taken.Nodup)
    (h : taken.length + amount ≤ n) (source : ρ) : (rejecting n amount taken source).1.Nodup := by
  induction amount generalizing taken source with
  | zero => exact List.nodup_reverse.mpr hnodup
  | succ amount ih =>
      rw [rejecting]
      have hroom : taken.length < n := by omega
      refine ih (List.nodup_cons.mpr ⟨fresh_not_mem hroom patience source, hnodup⟩) ?_ _
      rw [List.length_cons]
      omega

/-! ## The choice -/

theorem subset_bounds {n amount : Nat} (h : amount ≤ n) (source : ρ) :
    (subset n amount source).1.length = amount ∧ ∀ p ∈ (subset n amount source).1, p < n := by
  unfold subset
  cases method n amount with
  | growing =>
      have hnone : ∀ p ∈ ([] : List Nat), p < n - amount := by simp
      obtain ⟨hlength, hbound⟩ := growing_bounds hnone source
      exact ⟨by simpa using hlength, by rwa [Nat.sub_add_cancel h] at hbound⟩
  | shuffled => exact shuffled_bounds h source
  | rejecting =>
      rcases Nat.eq_zero_or_pos n with rfl | hn
      · obtain rfl := Nat.le_zero.mp h
        exact ⟨rfl, by simp [rejecting]⟩
      · have hnone : ∀ p ∈ ([] : List Nat), p < n := by simp
        obtain ⟨hlength, hbound⟩ := rejecting_bounds hn amount hnone source
        exact ⟨by simpa using hlength, hbound⟩

theorem nodup_subset {n amount : Nat} (h : amount ≤ n) (source : ρ) :
    (subset n amount source).1.Nodup := by
  unfold subset
  cases method n amount with
  | growing => exact nodup_growing List.nodup_nil (by simp) source
  | shuffled => exact nodup_shuffled n amount source
  | rejecting => exact nodup_rejecting List.nodup_nil (by simpa using h) source

instance : LawfulSampler ρ where
  length_subset h source := (subset_bounds h source).1
  lt_of_mem_subset h source := (subset_bounds h source).2
  nodup_subset h source := nodup_subset h source

end SampledKmeans.RandomSource
