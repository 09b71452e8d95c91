import SampledKmeans.Proofs.Vector.Dense
import SampledKmeans.Proofs.Vector.Pairs

/-!
# From dense vectors and back

Positions become indices modulo `2 ^ 32`.  A position from there on has no index of its
own: its value is stored at a smaller one, and no index can bring it back.  So a dense
vector comes back exactly when none of its values stands there, zeros apart
(`ofDense_comes_back_iff`), which is so whenever it is short enough
(`nameable_of_length_le`).

Two values whose positions have one index are noticed, because it is then repeated.  A
single value is not: it moves without a sign of it (`ofDense_moves_value`).
-/

namespace SampledKmeans.SparseVector

variable {dense : List Float}

/-- The number of positions that have an index of their own. -/
def indexCount : Nat :=
  2 ^ 32

theorem toNat_lt_indexCount (i : UInt32) : i.toNat < indexCount :=
  i.toNat_lt

theorem toNat_ofNat_of_lt {n : Nat} (h : n < indexCount) : (UInt32.ofNat n).toNat = n :=
  UInt32.toNat_ofNat_of_lt h

theorem eq_of_ofNat_eq {m n : Nat} (hm : m < indexCount) (hn : n < indexCount)
    (h : UInt32.ofNat m = UInt32.ofNat n) : m = n := by
  rw [← toNat_ofNat_of_lt hm, h, toNat_ofNat_of_lt hn]

/-- Every value that is not zero stands at a position with an index of its own. -/
def Nameable (dense : List Float) : Prop :=
  ∀ n x, dense[n]? = some x → (x != 0.0) = true → n < indexCount

theorem nameable_of_length_le (h : dense.length ≤ indexCount) : Nameable dense := by
  intro n x hx _
  obtain ⟨hn, -⟩ := List.getElem?_eq_some_iff.mp hx
  exact Nat.lt_of_lt_of_le hn h

theorem Nameable.append_zeros (h : Nameable dense) (count : Nat) :
    Nameable (dense ++ List.replicate count 0.0) := by
  intro n x hx hnonzero
  rcases Nat.lt_or_ge n dense.length with hn | hn
  · rw [List.getElem?_append_left hn] at hx
    exact h n x hx hnonzero
  · rw [List.getElem?_append_right hn] at hx
    rw [List.eq_of_mem_replicate (List.mem_of_getElem? hx)] at hnonzero
    cases hnonzero

theorem isFinite_of_mem_zeros {count : Nat} :
    ∀ x ∈ List.replicate count (0.0 : Float), x.isFinite = true := by
  intro x hx
  rw [List.eq_of_mem_replicate hx]
  rfl

/-! ## The pairs of a dense vector -/

/-- The values of a dense vector that are not zero, each with the index of its position. -/
def densePairs (dense : List Float) : List (UInt32 × Float) :=
  (dense.zipIdx.map fun (x, n) => (UInt32.ofNat n, x)).filter isStored

theorem ofDense_eq (dense : List Float) : ofDense dense = ofPairs (densePairs dense) :=
  rfl

theorem mem_densePairs_iff {c : UInt32 × Float} :
    c ∈ densePairs dense ↔
      ∃ n, dense[n]? = some c.2 ∧ c.1 = UInt32.ofNat n ∧ (c.2 != 0.0) = true := by
  rw [densePairs, List.mem_filter, List.mem_map]
  constructor
  · rintro ⟨⟨⟨x, n⟩, hx, rfl⟩, hstored⟩
    exact ⟨n, List.mem_zipIdx_iff_getElem?.mp hx, rfl, hstored⟩
  · rintro ⟨n, hx, hindex, hnonzero⟩
    exact ⟨⟨(c.2, n), List.mem_zipIdx_iff_getElem?.mpr hx, Prod.ext hindex.symm rfl⟩, hnonzero⟩

theorem isFinite_of_mem_densePairs (hfinite : ∀ x ∈ dense, x.isFinite = true) :
    ∀ c ∈ densePairs dense, c.2.isFinite = true := by
  intro c hc
  obtain ⟨n, hx, -⟩ := mem_densePairs_iff.mp hc
  exact hfinite c.2 (List.mem_of_getElem? hx)

/-- Positions that have indices of their own have different ones. -/
theorem Nameable.nodup_densePairs (h : Nameable dense) :
    ((densePairs dense).map Prod.fst).Nodup := by
  have hpositions : dense.zipIdx.Pairwise fun p q => p.2 < q.2 := by
    have hrange := List.pairwise_lt_range' (s := 0) (n := dense.length)
    rwa [← List.zipIdx_map_snd, List.pairwise_map] at hrange
  rw [densePairs, List.filter_map, List.map_map, List.Nodup, List.pairwise_map]
  refine (hpositions.filter _).imp_of_mem fun {p q} hp hq hlt heq => ?_
  have hbound : ∀ r ∈ dense.zipIdx.filter (isStored ∘ fun (x, n) => (UInt32.ofNat n, x)),
      r.2 < indexCount := by
    intro r hr
    obtain ⟨hmem, hstored⟩ := List.mem_filter.mp hr
    exact h r.2 r.1 (List.mem_zipIdx_iff_getElem?.mp hmem) hstored
  exact Nat.ne_of_lt hlt (eq_of_ofNat_eq (hbound p hp) (hbound q hq) heq)

theorem Nameable.exists_ofDense (h : Nameable dense) (hfinite : ∀ x ∈ dense, x.isFinite = true) :
    ∃ v, ofDense dense = .ok v :=
  ⟨_, ofPairs_of_finite h.nodup_densePairs (isFinite_of_mem_densePairs hfinite)⟩

/-! ## There and back -/

variable {v : SparseVector}

/-- At a position without an index of its own a zero is read. -/
theorem valueAt_of_indexCount_le (coordinates : List (UInt32 × Float)) {n : Nat}
    (hn : indexCount ≤ n) : valueAt coordinates n = 0.0 :=
  valueAt_of_not_mem fun i _ => Nat.ne_of_lt (Nat.lt_of_lt_of_le (toNat_lt_indexCount i) hn)

theorem mem_coordinates_of_ofDense (hok : ofDense dense = .ok v) {c : UInt32 × Float} :
    c ∈ v.coordinates ↔
      ∃ n, dense[n]? = some c.2 ∧ c.1 = UInt32.ofNat n ∧ (c.2 != 0.0) = true := by
  rw [mem_coordinates_of_ofPairs hok, ← mem_densePairs_iff]
  exact and_iff_left_of_imp fun hc => (List.mem_filter.mp hc).2

theorem Nameable.get?_ofDense (h : Nameable dense) (hok : ofDense dense = .ok v) {n : Nat}
    {x : Float} (hx : dense[n]? = some x) (hn : n < indexCount) :
    v.get? (UInt32.ofNat n) = some (asRead x) := by
  refine (valid_of_ofPairs hok).ordered.get?_eq_asRead fun y => ?_
  rw [mem_coordinates_of_ofDense hok]
  constructor
  · rintro ⟨m, hy, hindex, hnonzero⟩
    obtain rfl := eq_of_ofNat_eq hn (h m y hy hnonzero) hindex
    obtain rfl := Option.some.inj (hx.symm.trans hy)
    exact ⟨rfl, hnonzero⟩
  · rintro ⟨rfl, hnonzero⟩
    exact ⟨n, hx, rfl, hnonzero⟩

theorem Nameable.valueAt_ofDense (h : Nameable dense) (hok : ofDense dense = .ok v) {n : Nat}
    {x : Float} (hx : dense[n]? = some x) : valueAt v.coordinates n = asRead x := by
  rcases Nat.lt_or_ge n indexCount with hn | hn
  · have hget := h.get?_ofDense hok hx hn
    rw [(valid_of_ofPairs hok).ordered.get?_eq, ← valueAt_toNat, toNat_ofNat_of_lt hn] at hget
    exact Option.some.inj hget
  · have hzero : (x != 0.0) = false :=
      Bool.eq_false_iff.mpr fun hnonzero => Nat.not_lt.mpr hn (h n x hx hnonzero)
    rw [valueAt_of_indexCount_le _ hn, asRead_of_zero hzero]

theorem getElem?_toDense (hok : ofDense dense = .ok v) {n : Nat} {x : Float}
    (hx : dense[n]? = some x) :
    (v.toDense dense.length)[n]? = some (valueAt v.coordinates n) := by
  obtain ⟨hn, -⟩ := List.getElem?_eq_some_iff.mp hx
  rw [toDense_eq (valid_of_ofPairs hok).ordered.ascending, List.getElem?_map,
    List.getElem?_range hn, Option.map_some]

theorem Nameable.toDense_ofDense (h : Nameable dense) (hok : ofDense dense = .ok v) :
    v.toDense dense.length = dense.map asRead := by
  refine List.ext_getElem? fun n => ?_
  cases hx : dense[n]? with
  | none =>
      have hlength := List.getElem?_eq_none_iff.mp hx
      rw [List.getElem?_eq_none (by simpa using hlength),
        List.getElem?_eq_none (by simpa using hlength)]
  | some x =>
      rw [getElem?_toDense hok hx, h.valueAt_ofDense hok hx, List.getElem?_map, hx,
        Option.map_some]

theorem nameable_of_toDense_eq (hok : ofDense dense = .ok v)
    (h : v.toDense dense.length = dense.map asRead) : Nameable dense := by
  intro n x hx hnonzero
  refine Nat.lt_of_not_le fun hn => ?_
  have hvalue := getElem?_toDense hok hx
  rw [h, List.getElem?_map, hx, Option.map_some, asRead_of_nonzero hnonzero,
    valueAt_of_indexCount_le _ hn] at hvalue
  rw [Option.some.inj hvalue] at hnonzero
  cases hnonzero

/-- A dense vector of finite numbers comes back, and is read at the positions that an
index can name, exactly when none of its values but zeros stands beyond them.  In this
case it does make a vector. -/
theorem ofDense_comes_back_iff (hfinite : ∀ x ∈ dense, x.isFinite = true) :
    (Nameable dense → ∃ v, ofDense dense = .ok v) ∧
      ∀ v, ofDense dense = .ok v →
        ((v.toDense dense.length = dense.map asRead ∧
            ∀ n x, dense[n]? = some x → n < indexCount →
              v.get? (UInt32.ofNat n) = some (asRead x)) ↔
          Nameable dense) := by
  refine ⟨fun h => h.exists_ofDense hfinite, fun v hok => ⟨fun h => ?_, fun h => ⟨?_, ?_⟩⟩⟩
  · exact nameable_of_toDense_eq hok h.1
  · exact h.toDense_ofDense hok
  · exact fun n x hx hn => h.get?_ofDense hok hx hn

/-- A dense vector may be longer than there are indices, as long as there are but zeros at
its end. -/
theorem ofDense_comes_back_iff_zeros :
    let dense : List Float := [3.0, -0.0] ++ List.replicate indexCount 0.0
    (∀ x ∈ dense, x.isFinite = true) ∧ Nameable dense ∧ ∃ v, ofDense dense = .ok v ∧
      v.toDense dense.length = [3.0, 0.0] ++ List.replicate indexCount 0.0 ∧
      v.get? 0 = some 3.0 ∧ v.get? 1 = some 0.0 := by
  intro dense
  have hfinite : ∀ x ∈ dense, x.isFinite = true :=
    List.forall_mem_append.mpr ⟨by decide +kernel, isFinite_of_mem_zeros⟩
  have hnameable : Nameable dense := (nameable_of_length_le (by decide)).append_zeros indexCount
  obtain ⟨hmakes, hiff⟩ := ofDense_comes_back_iff hfinite
  obtain ⟨v, hok⟩ := hmakes hnameable
  obtain ⟨hback, hget⟩ := (hiff v hok).mpr hnameable
  have hasRead : [3.0, -0.0].map asRead = [3.0, 0.0] := by decide +kernel
  refine ⟨hfinite, hnameable, v, hok, ?_, ?_, ?_⟩
  · rw [hback, List.map_append, List.map_replicate, hasRead, asRead_zero]
  · exact hget 0 3.0 (List.getElem?_append_left (by decide)) (by decide)
  · exact hget 1 (-0.0) (List.getElem?_append_left (by decide)) (by decide)

/-! ## Where a value is moved -/

/-- The pairs of a single value behind zeros. -/
theorem densePairs_zeros_append {x : Float} (hnonzero : (x != 0.0) = true) (n : Nat) :
    densePairs (List.replicate n 0.0 ++ [x]) = [(UInt32.ofNat n, x)] := by
  have hzeros : densePairs (List.replicate n 0.0) = [] := by
    rw [List.eq_nil_iff_forall_not_mem]
    intro c hc
    obtain ⟨m, hm, -, hc⟩ := mem_densePairs_iff.mp hc
    rw [List.eq_of_mem_replicate (List.mem_of_getElem? hm)] at hc
    cases hc
  rw [densePairs, List.zipIdx_append, List.map_append, List.filter_append, ← densePairs, hzeros,
    List.nil_append, List.length_replicate, Nat.zero_add, List.zipIdx_singleton,
    List.map_singleton]
  exact List.filter_cons_of_pos hnonzero

/-- A single value behind zeros is stored, whatever its position is. -/
theorem ofDense_moves_value {x : Float} (hfinite : x.isFinite = true)
    (hnonzero : (x != 0.0) = true) (n : Nat) :
    ofDense (List.replicate n 0.0 ++ [x]) = .ok ⟨[UInt32.ofNat n], [x]⟩ := by
  have hdistinct : ([(UInt32.ofNat n, x)].map Prod.fst).Nodup := List.nodup_singleton _
  have hvalue : ∀ c ∈ [(UInt32.ofNat n, x)], c.2.isFinite = true := by
    intro c hc
    rwa [List.mem_singleton.mp hc]
  have hstored : (sortByIndex [(UInt32.ofNat n, x)]).filter isStored = [(UInt32.ofNat n, x)] :=
    List.filter_cons_of_pos hnonzero
  rw [ofDense_eq, densePairs_zeros_append hnonzero, ofPairs_of_finite hdistinct hvalue, hstored]
  rfl

theorem not_nameable_zeros_append {x : Float} (hnonzero : (x != 0.0) = true) {n : Nat}
    (hn : indexCount ≤ n) : ¬ Nameable (List.replicate n 0.0 ++ [x]) := by
  intro h
  have hlast : (List.replicate n 0.0 ++ [x])[n]? = some x := by
    rw [List.getElem?_append_right (by simp), List.length_replicate, Nat.sub_self]
    rfl
  exact Nat.not_lt.mpr hn (h n x hlast hnonzero)

/-- The value at the first position without an index of its own is read at the index `0`,
where there was a zero. -/
theorem ofDense_loses_position :
    let dense : List Float := List.replicate indexCount 0.0 ++ [1.0]
    let v : SparseVector := ⟨[0], [1.0]⟩
    (∀ x ∈ dense, x.isFinite = true) ∧ ofDense dense = .ok v ∧
      v.toDense dense.length ≠ dense.map asRead ∧ dense[0]? = some 0.0 ∧ v.get? 0 = some 1.0 := by
  intro dense v
  have hok : ofDense dense = .ok v := ofDense_moves_value rfl rfl indexCount
  refine ⟨List.forall_mem_append.mpr ⟨isFinite_of_mem_zeros, by decide +kernel⟩, hok,
    fun hback => ?_, ?_, ?_⟩
  · exact not_nameable_zeros_append rfl (Nat.le_refl _) (nameable_of_toDense_eq hok hback)
  · have hpos : 0 < indexCount := by decide
    rw [List.getElem?_append_left (by rwa [List.length_replicate]),
      List.getElem?_replicate_of_lt hpos]
  · simp [get?, position?, v]

end SampledKmeans.SparseVector
