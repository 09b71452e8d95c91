import SampledKmeans.Proofs.Number.Magnitude
import SampledKmeans.Proofs.Vector.Dense
import SampledKmeans.Proofs.Vector.Gaps

/-!
# The distance in both directions

Rounded sums depend on the order of their terms.  The distance does not depend on its
direction all the same, to the last bit (`distance?_metric_laws`), and this has two
reasons.

* **The same steps.**  The two directions meet the same indices, one after another, with
  the sides exchanged (`walkLists_comm`).  So the same squares are added up in the same
  order.
* **One remainder.**  What is left of the two vectors is summed apart, and the two sums
  change places.  But a walk goes on until one vector is exhausted, so that one of the
  two is zero (`Walk.Regular.exhausted`).

Nothing here asks for the indices to be in order.
-/

namespace SampledKmeans.SparseVector

/-! ## Walks with the sides exchanged -/

/-- A gap seen from the other side. -/
def Gap.mirror : Gap → Gap
  | .both i x y => .both i y x
  | .left i x => .right i x
  | .right i y => .left i y

/-- A walk seen from the other side. -/
def Walk.mirror (walk : Walk) : Walk where
  gaps := walk.gaps.map Gap.mirror
  leftRest := walk.rightRest
  rightRest := walk.leftRest

theorem Walk.mirror_meet (gap : Gap) (walk : Walk) :
    (walk.meet gap).mirror = walk.mirror.meet gap.mirror :=
  rfl

theorem map_mirror_map_meet (gap : Gap) (walk : Option Walk) :
    (walk.map (Walk.meet gap)).map Walk.mirror =
      (walk.map Walk.mirror).map (Walk.meet gap.mirror) := by
  simp only [Option.map_map, Function.comp_def, Walk.mirror_meet]

/-- A step of a walk, with the lists on both sides at their first index. -/
theorem walkLists_cons_cons (i j : UInt32) (is js : List UInt32) (xs ys : List Float) :
    walkLists (i :: is) xs (j :: js) ys =
      if i = j then
        match xs, ys with
        | x :: xs, y :: ys => (walkLists is xs js ys).map (Walk.meet (.both i x y))
        | _, _ => none
      else if i < j then
        match xs with
        | x :: xs => (walkLists is xs (j :: js) ys).map (Walk.meet (.left i x))
        | [] => none
      else
        match ys with
        | y :: ys => (walkLists (i :: is) xs js ys).map (Walk.meet (.right j y))
        | [] => none :=
  rfl

theorem walkLists_comm (is : List UInt32) (xs : List Float) (js : List UInt32)
    (ys : List Float) : walkLists js ys is xs = (walkLists is xs js ys).map Walk.mirror := by
  induction is generalizing xs js ys with
  | nil => cases js <;> rfl
  | cons i is ih =>
      induction js generalizing ys with
      | nil => rfl
      | cons j js ihRight =>
          rw [walkLists_cons_cons, walkLists_cons_cons]
          by_cases heq : i = j
          · subst heq
            rw [if_pos rfl, if_pos rfl]
            cases xs with
            | nil => cases ys <;> rfl
            | cons x xs =>
                cases ys with
                | nil => rfl
                | cons y ys => rw [map_mirror_map_meet, ← ih]; rfl
          rw [if_neg (Ne.symm heq), if_neg heq]
          rcases UInt32.lt_or_lt_of_ne heq with hlt | hlt
          · rw [if_neg (UInt32.lt_asymm hlt), if_pos hlt]
            cases xs with
            | nil => rfl
            | cons x xs => rw [map_mirror_map_meet, ← ih]; rfl
          · rw [if_pos hlt, if_neg (UInt32.lt_asymm hlt)]
            cases ys with
            | nil => rfl
            | cons y ys => rw [map_mirror_map_meet, ← ihRight]; rfl

theorem walk?_comm (a b : SparseVector) : walk? b a = (walk? a b).map Walk.mirror :=
  walkLists_comm ..

/-! ## What is added up -/

/-- A walk in which one of the two vectors is exhausted, and in which everything that is
squared is a number. -/
structure Walk.Regular (walk : Walk) : Prop where
  exhausted : walk.leftRest = [] ∨ walk.rightRest = []
  terms : ∀ x ∈ walk.terms, x.isNaN = false

theorem Walk.Regular.meet {walk : Walk} (h : walk.Regular) (gap : Gap)
    (hterm : gap.term.isNaN = false) : (walk.meet gap).Regular where
  exhausted := h.exhausted
  terms := List.forall_mem_cons.mpr ⟨hterm, h.terms⟩

theorem exists_regular_meet {walk? : Option Walk}
    (h : ∃ walk, walk? = some walk ∧ walk.Regular) (gap : Gap) (hterm : gap.term.isNaN = false) :
    ∃ walk, walk?.map (Walk.meet gap) = some walk ∧ walk.Regular := by
  obtain ⟨walk, rfl, hregular⟩ := h
  exact ⟨walk.meet gap, rfl, hregular.meet gap hterm⟩

theorem exists_regular_walk {is js : List UInt32} {xs ys : List Float}
    (hxs : is.length = xs.length) (hys : js.length = ys.length)
    (hfinite : ∀ x ∈ xs, x.isFinite = true) (hfinite' : ∀ y ∈ ys, y.isFinite = true) :
    ∃ walk, walkLists is xs js ys = some walk ∧ walk.Regular := by
  induction is generalizing xs js ys with
  | nil =>
      obtain rfl := List.eq_nil_of_length_eq_zero hxs.symm
      exact ⟨_, rfl, .inl rfl, fun y hy => Number.isNaN_of_isFinite (hfinite' y hy)⟩
  | cons i is ih =>
      obtain ⟨x, xs, rfl⟩ := List.exists_cons_of_length_eq_add_one hxs.symm
      have hrest : is.length = xs.length := Nat.succ.inj hxs
      obtain ⟨hx, hfiniteRest⟩ := List.forall_mem_cons.mp hfinite
      induction js generalizing ys with
      | nil =>
          obtain rfl := List.eq_nil_of_length_eq_zero hys.symm
          refine ⟨_, rfl, .inr rfl, fun z hz => Number.isNaN_of_isFinite (hfinite z ?_)⟩
          simpa [Walk.terms] using hz
      | cons j js ihRight =>
          obtain ⟨y, ys, rfl⟩ := List.exists_cons_of_length_eq_add_one hys.symm
          have hrest' : js.length = ys.length := Nat.succ.inj hys
          obtain ⟨hy, hfiniteRest'⟩ := List.forall_mem_cons.mp hfinite'
          simp only [walkLists_cons_cons]
          split_ifs
          · exact exists_regular_meet (ih hrest hrest' hfiniteRest hfiniteRest') (.both i x y)
              (Number.isNaN_sub hx hy)
          · exact exists_regular_meet (ih hrest hys hfiniteRest hfinite') (.left i x)
              (Number.isNaN_of_isFinite hx)
          · exact exists_regular_meet (ihRight hrest' hfiniteRest') (.right j y)
              (Number.isNaN_of_isFinite hy)

theorem isNaN_sumSquares {values : List Float} (h : ∀ v ∈ values, v.isNaN = false) :
    (sumSquares values).isNaN = false :=
  Number.isNaN_foldl_add Number.unsigned_mul_self
    (fun v hv => Number.isNaN_mul_self (h v hv)) Number.unsigned_zero Number.isNaN_zero

theorem Walk.Regular.isNaN_radicand {walk : Walk} (h : walk.Regular) :
    walk.radicand.isNaN = false := by
  obtain ⟨⟨hgaps, hleft⟩, hright⟩ : ((∀ x ∈ walk.gaps.map Gap.term, x.isNaN = false) ∧
      ∀ x ∈ walk.leftRest, x.isNaN = false) ∧ ∀ x ∈ walk.rightRest, x.isNaN = false := by
    simpa only [Walk.terms, List.forall_mem_append] using h.terms
  rw [walk.radicand_eq]
  refine Number.isNaN_add (Number.unsigned_add (unsigned_sumSquares _) (unsigned_sumSquares _))
    (unsigned_sumSquares _) ?_ (isNaN_sumSquares hright)
  exact Number.isNaN_add (unsigned_sumSquares _) (unsigned_sumSquares _)
    (isNaN_sumSquares hgaps) (isNaN_sumSquares hleft)

theorem sumSquares_mirror (gaps : List Gap) :
    sumSquares ((gaps.map Gap.mirror).map Gap.term) = sumSquares (gaps.map Gap.term) := by
  have hsquare : ∀ gap : Gap, gap.mirror.term * gap.mirror.term = gap.term * gap.term := by
    intro gap
    cases gap with
    | both i x y => exact Number.mul_self_sub_comm y x
    | left i x => rfl
    | right i y => rfl
  simp only [sumSquares, List.foldl_map, hsquare]

/-- The remainders change places, but one of them adds nothing. -/
theorem Walk.Regular.radicand_mirror {walk : Walk} (h : walk.Regular) :
    walk.mirror.radicand = walk.radicand := by
  have hgaps := unsigned_sumSquares (walk.gaps.map Gap.term)
  have hnil : sumSquares [] = 0.0 := rfl
  rw [Walk.radicand_eq, Walk.radicand_eq, Walk.mirror, sumSquares_mirror]
  -- The sum of the empty remainder is added in the middle on one side, last on the other.
  rcases h.exhausted with hempty | hempty <;>
    rw [hempty, hnil, Number.add_zero_of_unsigned hgaps,
      Number.add_zero_of_unsigned (Number.unsigned_add hgaps (unsigned_sumSquares _))]

/-! ## A vector beside itself -/

theorem walkLists_self {is : List UInt32} {xs : List Float} (h : is.length = xs.length) :
    walkLists is xs is xs = some ⟨(is.zip xs).map fun c => .both c.1 c.2 c.2, [], []⟩ := by
  induction is generalizing xs with
  | nil =>
      obtain rfl := List.eq_nil_of_length_eq_zero h.symm
      rfl
  | cons i is ih =>
      obtain ⟨x, xs, rfl⟩ := List.exists_cons_of_length_eq_add_one h.symm
      rw [walkLists_cons_cons, if_pos rfl]
      dsimp only
      rw [ih (Nat.succ.inj h)]
      rfl

variable {a b : SparseVector}

theorem Balanced.distance?_self (h : a.Balanced) (hfinite : ∀ x ∈ a.values, x.isFinite = true) :
    distance? a a = some 0.0 := by
  have hzero : Walk.radicand ⟨a.coordinates.map fun c => .both c.1 c.2 c.2, [], []⟩ = 0.0 := by
    refine (Walk.radicand_eq_zero_iff _).mpr ⟨?_, List.forall_mem_nil _, List.forall_mem_nil _⟩
    rw [List.forall_mem_map]
    intro c hc
    have hvalue := hfinite c.2 (List.of_mem_zip hc).2
    rw [Gap.square, Number.sub_self_of_isFinite hvalue, Number.zero_mul_zero]
  rw [distance?, walk?, walkLists_self h, Option.map_some]
  exact congrArg some ((congrArg Float.sqrt hzero).trans Number.sqrt_zero)

/-! ## Both directions -/

/-- Two vectors with finite values have one distance, which is a number, in both
directions: the same bits, also where squares are beyond the finite numbers.  A vector
has no distance from itself. -/
theorem distance?_metric_laws (ha : a.Balanced) (hb : b.Balanced)
    (hfinite : ∀ x ∈ a.values, x.isFinite = true)
    (hfinite' : ∀ y ∈ b.values, y.isFinite = true) :
    (∃ d, distance? a b = some d ∧ distance? b a = some d ∧ d.isNaN = false) ∧
      distance? a a = some 0.0 := by
  obtain ⟨walk, hwalk, hregular⟩ := exists_regular_walk ha hb hfinite hfinite'
  have hforward : walk? a b = some walk := hwalk
  refine ⟨⟨walk.radicand.sqrt, ?_, ?_, ?_⟩, ha.distance?_self hfinite⟩
  · rw [distance?, hforward, Option.map_some]
  · rw [distance?, walk?_comm, hforward, Option.map_some, Option.map_some,
      hregular.radicand_mirror]
  · exact Number.isNaN_sqrt walk.unsigned_radicand hregular.isNaN_radicand

/-- The square at the index `0` is beyond the finite numbers, the one at `3` is that of a
difference, and each vector has an index that the other one lacks. -/
theorem distance?_metric_laws_overflow :
    let a : SparseVector := { indices := [0, 3], values := [1e200, 1.0] }
    let b : SparseVector := { indices := [3, 8], values := [-2.0, 0.5] }
    a.Balanced ∧ b.Balanced ∧ (∀ x ∈ a.values, x.isFinite = true) ∧
      (∀ y ∈ b.values, y.isFinite = true) ∧
      distance? a b = some infiniteDistance ∧ distance? b a = some infiniteDistance ∧
      distance? a a = some 0.0 := by
  intro a b
  have ha : a.Balanced := rfl
  have hb : b.Balanced := rfl
  have hfinite : ∀ x ∈ a.values, x.isFinite = true := by decide +kernel
  have hfinite' : ∀ y ∈ b.values, y.isFinite = true := by decide +kernel
  obtain ⟨⟨d, hforward, hback, -⟩, hself⟩ := distance?_metric_laws ha hb hfinite hfinite'
  have hvalue : distance? a b = some infiniteDistance := by decide +kernel
  exact ⟨ha, hb, hfinite, hfinite', hvalue, hback.trans (hforward.symm.trans hvalue), hself⟩

end SampledKmeans.SparseVector
