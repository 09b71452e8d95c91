import SampledKmeans.Proofs.Vector.Walk

/-!
# Reading a vector

The search for an index halves a window until one index is left, and compares that one
only.  So what it finds is the index asked for, whatever the order of the indices is
(`getElem?_of_position?`).  When they increase, the half that is dropped cannot hold the
index, and one that is there is found (`exists_position?`).

A vector in order is therefore read by looking its coordinates up (`Ordered.get?_eq`).
What is read of a number that a constructor was given is `asRead`: a zero is not stored,
and is read as the zero without a minus sign (`Ordered.get?_eq_asRead`).
-/

namespace SampledKmeans.SparseVector

/-! ## The search for an index -/

variable {target : UInt32} {base position : Nat} {window : List UInt32}

theorem getElem?_of_position? (h : position? target base window = some position) :
    ∃ offset, position = base + offset ∧ window[offset]? = some target := by
  fun_induction position? target base window with
  | case1 base => cases h
  | case2 base => exact ⟨0, (Option.some.inj h).symm, rfl⟩
  | case3 base i hne => cases h
  | case4 base i j rest half hlt ih =>
      obtain ⟨offset, hposition, hget⟩ := ih h
      rw [List.getElem?_take] at hget
      split_ifs at hget
      exact ⟨offset, hposition, hget⟩
  | case5 base i j rest half hge ih =>
      obtain ⟨offset, hposition, hget⟩ := ih h
      rw [List.getElem?_drop] at hget
      exact ⟨half + offset, by omega, hget⟩

theorem getElem_lt_getElem_iff (hwindow : window.Pairwise (· < ·)) {m n : Nat}
    (hm : m < window.length) (hn : n < window.length) : window[m] < window[n] ↔ m < n := by
  refine ⟨fun hlt => Nat.lt_of_not_le fun hle => ?_,
    List.pairwise_iff_getElem.mp hwindow m n hm hn⟩
  rcases Nat.lt_or_eq_of_le hle with hnm | rfl
  · exact UInt32.lt_asymm hlt (List.pairwise_iff_getElem.mp hwindow n m hn hm hnm)
  · exact UInt32.lt_irrefl _ hlt

theorem exists_position? (hwindow : window.Pairwise (· < ·)) (h : target ∈ window) :
    ∃ position, position? target base window = some position := by
  fun_induction position? target base window with
  | case1 base => cases h
  | case2 base => exact ⟨base, rfl⟩
  | case3 base i hne => exact absurd (List.mem_singleton.mp h).symm hne
  | case4 base i j rest half hlt ih =>
      refine ih (hwindow.sublist (List.take_sublist _ _)) ?_
      obtain ⟨n, hn, rfl⟩ := List.mem_iff_getElem.mp h
      have hlength : (i :: j :: rest).length = rest.length + 2 := rfl
      have hbelow : n < half := (getElem_lt_getElem_iff hwindow hn (by omega)).mp hlt
      exact List.mem_take_iff_getElem.mpr ⟨n, by omega, rfl⟩
  | case5 base i j rest half hge ih =>
      refine ih (hwindow.sublist (List.drop_sublist _ _)) ?_
      obtain ⟨n, hn, rfl⟩ := List.mem_iff_getElem.mp h
      have hlength : (i :: j :: rest).length = rest.length + 2 := rfl
      have habove : ¬ n < half := mt (getElem_lt_getElem_iff hwindow hn (by omega)).mpr hge
      obtain ⟨offset, rfl⟩ := Nat.exists_eq_add_of_le (Nat.le_of_not_lt habove)
      exact List.mem_drop_iff_getElem.mpr ⟨offset, by omega, rfl⟩

/-! ## Coordinates -/

variable {coordinates : List (UInt32 × Float)}

/-- Coordinates in order have one value at an index. -/
theorem Ascending.lookup_eq_some_iff (h : Ascending coordinates) {i : UInt32} {x : Float} :
    coordinates.lookup i = some x ↔ (i, x) ∈ coordinates := by
  induction coordinates with
  | nil => simp
  | cons c coordinates ih =>
      obtain ⟨j, y⟩ := c
      obtain ⟨hlt, hrest⟩ := List.pairwise_cons.mp h
      rw [List.mem_cons, Prod.mk.injEq]
      by_cases heq : i = j
      · subst heq
        have hnot : (i, x) ∉ coordinates := fun hmem => UInt32.lt_irrefl i (hlt _ hmem)
        rw [List.lookup_cons_self, Option.some.injEq, or_iff_left hnot, and_iff_right rfl, eq_comm]
      · rw [lookup_cons_of_ne heq, ih hrest, or_iff_right fun hij => heq hij.1]

variable {v : SparseVector}

theorem Ordered.lookup_eq_some_iff (h : v.Ordered) {i : UInt32} {x : Float} :
    v.coordinates.lookup i = some x ↔ (i, x) ∈ v.coordinates :=
  h.ascending.lookup_eq_some_iff

/-- An index is stored with the value beside it. -/
theorem Ordered.mem_indices_iff (h : v.Ordered) {i : UInt32} :
    i ∈ v.indices ↔ ∃ x, (i, x) ∈ v.coordinates := by
  rw [← h.map_fst_coordinates, List.mem_map]
  constructor
  · rintro ⟨c, hc, rfl⟩
    exact ⟨c.2, hc⟩
  · rintro ⟨x, hc⟩
    exact ⟨(i, x), hc, rfl⟩

theorem Ordered.lookup_eq_none_iff (h : v.Ordered) {i : UInt32} :
    v.coordinates.lookup i = none ↔ i ∉ v.indices := by
  simp only [h.mem_indices_iff, not_exists, ← h.lookup_eq_some_iff,
    Option.eq_none_iff_forall_ne_some, ne_eq]

/-- A vector in order is read by looking its coordinates up. -/
theorem Ordered.get?_eq (h : v.Ordered) (i : UInt32) :
    v.get? i = some ((v.coordinates.lookup i).getD 0.0) := by
  unfold get?
  cases hposition : position? i 0 v.indices with
  | none =>
      have hnot : i ∉ v.indices := by
        intro hmem
        have hexists : ∃ position, position? i 0 v.indices = some position :=
          exists_position? h.increasing hmem
        obtain ⟨position, hfound⟩ := hexists
        rw [hfound] at hposition
        cases hposition
      rw [h.lookup_eq_none_iff.mpr hnot, Option.getD_none]
  | some position =>
      obtain ⟨offset, rfl, hget⟩ := getElem?_of_position? hposition
      obtain ⟨hoffset, -⟩ := List.getElem?_eq_some_iff.mp hget
      have hlength : offset < v.values.length := h.balanced ▸ hoffset
      have hvalue := List.getElem?_eq_getElem hlength
      have hmem : (i, v.values[offset]) ∈ v.coordinates :=
        List.mem_of_getElem? (List.getElem?_zip_eq_some.mpr ⟨hget, hvalue⟩)
      dsimp only
      rw [Nat.zero_add, hvalue, h.lookup_eq_some_iff.mpr hmem, Option.getD_some]

theorem Ordered.get?_of_not_mem (h : v.Ordered) {i : UInt32} (hi : i ∉ v.indices) :
    v.get? i = some 0.0 := by
  rw [h.get?_eq, h.lookup_eq_none_iff.mpr hi, Option.getD_none]

/-! ## Zeros -/

/-- A number as it is read from a vector, in which zeros are not stored: the zero with a
minus sign becomes the other one. -/
def asRead (x : Float) : Float :=
  if x != 0.0 then x else 0.0

theorem asRead_of_nonzero {x : Float} (h : (x != 0.0) = true) : asRead x = x :=
  if_pos h

theorem asRead_of_zero {x : Float} (h : (x != 0.0) = false) : asRead x = 0.0 :=
  if_neg (by rw [h]; exact Bool.false_ne_true)

theorem asRead_zero : asRead 0.0 = 0.0 :=
  rfl

/-- A number whose coordinate is stored unless it is zero is read from there. -/
theorem Ordered.get?_eq_asRead (h : v.Ordered) {i : UInt32} {x : Float}
    (hmem : ∀ y, (i, y) ∈ v.coordinates ↔ y = x ∧ (x != 0.0) = true) :
    v.get? i = some (asRead x) := by
  cases hzero : x != 0.0 with
  | true =>
      rw [h.get?_eq, h.lookup_eq_some_iff.mpr ((hmem x).mpr ⟨rfl, hzero⟩), Option.getD_some,
        asRead_of_nonzero hzero]
  | false =>
      have hnot : i ∉ v.indices := by
        intro hi
        obtain ⟨y, hy⟩ := h.mem_indices_iff.mp hi
        have hnonzero := ((hmem y).mp hy).2
        rw [hzero] at hnonzero
        cases hnonzero
      rw [h.get?_of_not_mem hnot, asRead_of_zero hzero]

end SampledKmeans.SparseVector
