import SampledKmeans.Store.Basic

/-!
# Balanced vectors

A vector is balanced when it has as many values as indices.  Of the guarantees of
the checked constructors that is the one on which distances depend: two balanced
vectors have a distance, whatever their indices and values are.  Every mean is
balanced.
-/

namespace SampledKmeans.SparseVector

/-- As many values as indices. -/
def Balanced (v : SparseVector) : Prop :=
  v.indices.length = v.values.length

instance (v : SparseVector) : Decidable v.Balanced :=
  inferInstanceAs (Decidable (_ = _))

theorem balanced_ofCoordinates (coordinates : List (UInt32 × Float)) :
    (ofCoordinates coordinates).Balanced := by
  simp [Balanced, ofCoordinates]

theorem exists_mean? {vectors : List SparseVector} (h : vectors ≠ []) :
    ∃ mean, mean? vectors = some mean := by
  unfold mean?
  rw [if_neg (by simpa using h)]
  exact ⟨_, rfl⟩

theorem balanced_of_mean? {vectors : List SparseVector} {mean : SparseVector}
    (h : mean? vectors = some mean) : mean.Balanced := by
  unfold mean? at h
  split at h
  · cases h
  · exact Option.some.inj h ▸ balanced_ofCoordinates _

/-! ## Walks -/

/-- A walk past an index comes to its end when what goes on from there does. -/
theorem isSome_walkPast {i : UInt32} {n : Nat}
    {next : List Float → List UInt32 → List Float → Option Walk}
    (hnext : ∀ xs js ys, xs.length = n → js.length = ys.length → (next xs js ys).isSome = true)
    {xs : List Float} {js : List UInt32} {ys : List Float} (hxs : xs.length = n + 1)
    (hys : js.length = ys.length) : (walkPast i xs next js ys).isSome = true := by
  obtain ⟨x, xs, rfl⟩ := List.exists_cons_of_length_eq_add_one hxs
  have hrest : xs.length = n := Nat.succ.inj hxs
  induction js generalizing ys with
  | nil => rfl
  | cons j js ih =>
      obtain ⟨y, ys, rfl⟩ := List.exists_cons_of_length_eq_add_one hys.symm
      have hjs : js.length = ys.length := Nat.succ.inj hys
      rw [walkPast]
      split
      · simpa using hnext xs js ys hrest hjs
      · split
        · simpa using hnext xs (j :: js) (y :: ys) hrest hys
        · simpa using ih hjs

theorem isSome_walkLists {is : List UInt32} {xs : List Float} {js : List UInt32} {ys : List Float}
    (hxs : is.length = xs.length) (hys : js.length = ys.length) :
    (walkLists is xs js ys).isSome = true := by
  induction is generalizing xs js ys with
  | nil => rfl
  | cons i is ih =>
      rw [walkLists]
      exact isSome_walkPast (fun xs js ys hxs hys => ih hxs.symm hys) hxs.symm hys

theorem Balanced.exists_distance? {a b : SparseVector} (ha : a.Balanced) (hb : b.Balanced) :
    ∃ d, distance? a b = some d := by
  obtain ⟨walk, hwalk⟩ := Option.isSome_iff_exists.mp (isSome_walkLists ha hb)
  exact ⟨walk.radicand.sqrt, by rw [distance?, walk?, hwalk, Option.map_some]⟩

end SampledKmeans.SparseVector
