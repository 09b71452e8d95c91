import SampledKmeans.Proofs.Number.Equality
import SampledKmeans.Proofs.Vector.RoundTrip

/-!
# One vector for the values at all indices

A valid vector is determined by what is read from it.  Its coordinates come in the order
of their indices, so that two vectors with the same coordinates are the same
(`Ordered.eq_of_mem_iff`); and none of its values is zero, so that an index which is
stored is read as no other one is.  Hence two valid vectors are equal exactly when equal
numbers are read from them at every index, and a valid vector comes back from its dense
values (`canonical_of_valid`).

The numbers that are read are compared as numbers, for which both zeros are equal.  That
makes no difference to valid vectors, which store neither.
-/

namespace SampledKmeans.SparseVector

variable {a b v : SparseVector}

/-! ## The same coordinates -/

/-- Coordinates in order are determined by which of them there are. -/
theorem Ascending.eq_of_mem_iff {coordinates coordinates' : List (UInt32 × Float)}
    (h : Ascending coordinates) (h' : Ascending coordinates')
    (hmem : ∀ c, c ∈ coordinates ↔ c ∈ coordinates') : coordinates = coordinates' := by
  have hperm : coordinates.Perm coordinates' :=
    (List.perm_ext_iff_of_nodup h.nodup.of_map h'.nodup.of_map).mpr hmem
  exact hperm.eq_of_pairwise (fun c c' _ _ hlt hgt => absurd hgt (UInt32.lt_asymm hlt)) h h'

theorem Ordered.eq_of_mem_iff (ha : a.Ordered) (hb : b.Ordered)
    (hmem : ∀ c, c ∈ a.coordinates ↔ c ∈ b.coordinates) : a = b := by
  have heq : a.coordinates = b.coordinates := ha.ascending.eq_of_mem_iff hb.ascending hmem
  have hindices : a.indices = b.indices := by
    rw [← ha.map_fst_coordinates, heq, hb.map_fst_coordinates]
  have hvalues : a.values = b.values := by
    rw [← ha.map_snd_coordinates, heq, hb.map_snd_coordinates]
  calc a = ⟨a.indices, a.values⟩ := rfl
    _ = ⟨b.indices, b.values⟩ := by rw [hindices, hvalues]
    _ = b := rfl

theorem Valid.mem_values_of_lookup (h : v.Valid) {i : UInt32} {x : Float}
    (hx : v.coordinates.lookup i = some x) : x ∈ v.values :=
  (List.of_mem_zip (h.ordered.lookup_eq_some_iff.mp hx)).2

theorem Valid.isFinite_lookup (h : v.Valid) (i : UInt32) :
    ((v.coordinates.lookup i).getD 0.0).isFinite = true := by
  cases hx : v.coordinates.lookup i with
  | some x => exact h.finite x (h.mem_values_of_lookup hx)
  | none => rfl

/-! ## The same numbers -/

/-- Equal numbers are read from two vectors at an index. -/
def ReadAlike (a b : SparseVector) (i : UInt32) : Prop :=
  ∃ x y, a.get? i = some x ∧ b.get? i = some y ∧ (x == y) = true

theorem ReadAlike.symm {i : UInt32} (h : ReadAlike a b i) : ReadAlike b a i := by
  obtain ⟨x, y, hx, hy, hxy⟩ := h
  exact ⟨y, x, hy, hx, Number.beq_symm hxy⟩

/-- What one vector stores the other one stores, too, since it is no zero. -/
theorem ReadAlike.lookup_eq_some {i : UInt32} {x : Float} (h : ReadAlike a b i) (ha : a.Valid)
    (hb : b.Valid) (hx : a.coordinates.lookup i = some x) : b.coordinates.lookup i = some x := by
  have hnonzero : (x != 0.0) = true := ha.nonzero x (ha.mem_values_of_lookup hx)
  obtain ⟨x', y, hget, hget', hxy⟩ := h
  rw [ha.ordered.get?_eq, hx, Option.getD_some, Option.some.injEq] at hget
  subst hget
  obtain rfl : x = y := Number.eq_of_beq_of_nonzero hxy hnonzero
  rw [hb.ordered.get?_eq, Option.some.injEq] at hget'
  cases hy : b.coordinates.lookup i with
  | some y => rw [← hget', hy, Option.getD_some]
  | none =>
      rw [hy, Option.getD_none] at hget'
      rw [← hget'] at hnonzero
      cases hnonzero

theorem eq_of_readAlike (ha : a.Valid) (hb : b.Valid) (h : ∀ i, ReadAlike a b i) : a = b := by
  refine ha.ordered.eq_of_mem_iff hb.ordered fun c => ?_
  rw [← ha.ordered.lookup_eq_some_iff, ← hb.ordered.lookup_eq_some_iff]
  exact ⟨fun hc => (h c.1).lookup_eq_some ha hb hc,
    fun hc => (h c.1).symm.lookup_eq_some hb ha hc⟩

theorem Valid.readAlike_self (h : v.Valid) (i : UInt32) : ReadAlike v v i :=
  ⟨_, _, h.ordered.get?_eq i, h.ordered.get?_eq i,
    Number.beq_self_of_isFinite (h.isFinite_lookup i)⟩

/-! ## Equality as it is computed

Indices are compared as such, and values as numbers. -/

theorem eq_of_values_beq {xs ys : List Float} (hnonzero : ∀ x ∈ xs, (x != 0.0) = true)
    (h : (xs == ys) = true) : xs = ys := by
  induction xs generalizing ys with
  | nil =>
      cases ys with
      | nil => rfl
      | cons y ys => cases h
  | cons x xs ih =>
      cases ys with
      | nil => cases h
      | cons y ys =>
          obtain ⟨hx, hxs⟩ := List.forall_mem_cons.mp hnonzero
          rw [List.cons_beq_cons, Bool.and_eq_true_iff] at h
          obtain ⟨hxy, hrest⟩ := h
          rw [Number.eq_of_beq_of_nonzero hxy hx, ih hxs hrest]

theorem values_beq_self {xs : List Float} (h : ∀ x ∈ xs, x.isFinite = true) :
    (xs == xs) = true := by
  induction xs with
  | nil => rfl
  | cons x xs ih =>
      obtain ⟨hx, hxs⟩ := List.forall_mem_cons.mp h
      rw [List.cons_beq_cons, Number.beq_self_of_isFinite hx, ih hxs]
      rfl

theorem Valid.beq_iff (ha : a.Valid) : (a == b) = true ↔ a = b := by
  change (a.indices == b.indices && a.values == b.values) = true ↔ a = b
  rw [Bool.and_eq_true_iff, beq_iff_eq]
  constructor
  · rintro ⟨hindices, hvalues⟩
    calc a = ⟨a.indices, a.values⟩ := rfl
      _ = ⟨b.indices, b.values⟩ := by rw [hindices, eq_of_values_beq ha.nonzero hvalues]
      _ = b := rfl
  · rintro rfl
    exact ⟨rfl, values_beq_self ha.finite⟩

/-! ## Written out and read back -/

theorem Ordered.getElem?_toDense (h : v.Ordered) {dim n : Nat} (hcount : dim ≤ indexCount) :
    (v.toDense dim)[n]? =
      if n < dim then some ((v.coordinates.lookup (UInt32.ofNat n)).getD 0.0) else none := by
  rw [toDense_eq h.ascending, List.getElem?_map]
  split_ifs with hn
  · have hindex : (UInt32.ofNat n).toNat = n := toNat_ofNat_of_lt (Nat.lt_of_lt_of_le hn hcount)
    rw [List.getElem?_range hn, Option.map_some, ← valueAt_toNat, hindex]
  · rw [List.getElem?_eq_none (by simpa using hn), Option.map_none]

theorem Valid.isFinite_of_mem_toDense (h : v.Valid) {dim : Nat} (hcount : dim ≤ indexCount) :
    ∀ x ∈ v.toDense dim, x.isFinite = true := by
  intro x hx
  obtain ⟨n, hn⟩ := List.mem_iff_getElem?.mp hx
  rw [h.ordered.getElem?_toDense hcount] at hn
  split_ifs at hn
  rw [← Option.some.inj hn]
  exact h.isFinite_lookup _

/-- The dense values of a vector, zeros apart, are its coordinates. -/
theorem Valid.mem_coordinates_iff_toDense (h : v.Valid) {dim : Nat}
    (hdim : ∀ i ∈ v.indices, i.toNat < dim) (hcount : dim ≤ indexCount) {c : UInt32 × Float} :
    c ∈ v.coordinates ↔
      ∃ n, (v.toDense dim)[n]? = some c.2 ∧ c.1 = UInt32.ofNat n ∧ (c.2 != 0.0) = true := by
  simp only [h.ordered.getElem?_toDense hcount]
  constructor
  · intro hc
    obtain ⟨hindex, hvalue⟩ := List.of_mem_zip hc
    refine ⟨c.1.toNat, ?_, UInt32.ofNat_toNat.symm, h.nonzero c.2 hvalue⟩
    rw [if_pos (hdim c.1 hindex), UInt32.ofNat_toNat, h.ordered.lookup_eq_some_iff.mpr hc,
      Option.getD_some]
  · rintro ⟨n, hn, hindex, hnonzero⟩
    split_ifs at hn
    rw [← hindex, Option.some.injEq] at hn
    rw [← h.ordered.lookup_eq_some_iff]
    cases hx : v.coordinates.lookup c.1 with
    | some x => rw [← hn, hx, Option.getD_some]
    | none =>
        rw [← hn, hx, Option.getD_none] at hnonzero
        cases hnonzero

theorem Valid.ofDense_toDense (h : v.Valid) {dim : Nat} (hdim : ∀ i ∈ v.indices, i.toNat < dim)
    (hcount : dim ≤ indexCount) : ofDense (v.toDense dim) = .ok v := by
  have hnameable : Nameable (v.toDense dim) := nameable_of_length_le (by rwa [length_toDense])
  obtain ⟨w, hw⟩ := hnameable.exists_ofDense (h.isFinite_of_mem_toDense hcount)
  have heq : w = v := by
    refine (valid_of_ofPairs hw).ordered.eq_of_mem_iff h.ordered fun c => ?_
    rw [mem_coordinates_of_ofDense hw, ← h.mem_coordinates_iff_toDense hdim hcount]
  rw [hw, heq]

/-! ## Canonical vectors -/

/-- Valid vectors are equal exactly when equal numbers are read from them at every index,
and then they are the same.  Each comes back from its values at the indices below any
dimension that has room for it. -/
theorem canonical_of_valid (ha : a.Valid) (hb : b.Valid) :
    ((a == b) = true ↔ ∀ i, ∃ x y, a.get? i = some x ∧ b.get? i = some y ∧ (x == y) = true) ∧
      ((a == b) = true ↔ a = b) ∧
      ∀ dim, (∀ i ∈ a.indices, i.toNat < dim) → dim ≤ 2 ^ 32 →
        ∃ dense, a.toDense? dim = some dense ∧ ofDense dense = .ok a := by
  refine ⟨⟨fun h => ?_, fun h => ?_⟩, ha.beq_iff, fun dim hdim hcount => ?_⟩
  · obtain rfl := ha.beq_iff.mp h
    exact ha.readAlike_self
  · exact ha.beq_iff.mpr (eq_of_readAlike ha hb h)
  · have hroom : dim ≤ maxNumbers := Nat.le_trans hcount (by decide)
    exact ⟨a.toDense dim, if_pos hroom, ha.ofDense_toDense hdim hcount⟩

/-- The last index that there is, with different values, and the largest dimension that
needs no larger one. -/
theorem canonical_of_valid_lastIndex :
    let a : SparseVector := ⟨[3, 4294967295], [1.5, -2.0]⟩
    let b : SparseVector := ⟨[3, 4294967295], [1.5, 2.0]⟩
    a.Valid ∧ b.Valid ∧ (∀ i ∈ a.indices, i.toNat < 2 ^ 32) ∧
      (¬ ∀ i, ∃ x y, a.get? i = some x ∧ b.get? i = some y ∧ (x == y) = true) ∧
      ∃ dense, a.toDense? (2 ^ 32) = some dense ∧ ofDense dense = .ok a := by
  intro a b
  have ha : a.Valid := ⟨by decide, by decide, by decide +kernel, by decide +kernel⟩
  have hb : b.Valid := ⟨by decide, by decide, by decide +kernel, by decide +kernel⟩
  have hdim : ∀ i ∈ a.indices, i.toNat < 2 ^ 32 := fun i _ => i.toNat_lt
  have hne : (a == b) = false := by decide +kernel
  obtain ⟨hread, -, hback⟩ := canonical_of_valid ha hb
  refine ⟨ha, hb, hdim, fun h => ?_, hback (2 ^ 32) hdim (Nat.le_refl _)⟩
  rw [hread.mpr h] at hne
  cases hne

end SampledKmeans.SparseVector
