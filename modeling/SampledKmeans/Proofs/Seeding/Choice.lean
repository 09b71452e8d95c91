import SampledKmeans.Proofs.Nearest.First
import SampledKmeans.Proofs.Refinement.Run
import SampledKmeans.Proofs.Seeding.Randomness

/-!
# Which point a seeding chooses

A round of a seeding goes through a list twice at most: through the candidates that it
draws, and through a scan when none of them lies apart.  Both times the best so far
gives way only to a strictly greater key, so that the first of the greatest is left in
the end (`exists_firstGreatest?_filter`).

Two things keep this from being the plain maximum of a list.  A key may be a NaN, which
is neither greater than another key nor equal to one: a score is one when an infinite
distance is weighted with zero.  And elements are passed over: the random numbers of the
candidates belong to their positions in the whole list, coincident candidates among
them.
-/

namespace SampledKmeans

open Procedure RandomSource

/-! ## The first of the greatest -/

section FirstGreatest

variable {α β : Type}

/-- The element `a` at position `i` is the first of the eligible elements with the
greatest key. -/
structure IsFirstGreatest (l : List α) (eligible : α → Prop) (key : Nat → α → Float) (i : Nat)
    (a : α) : Prop where
  getElem?_eq : l[i]? = some a
  isEligible : eligible a
  not_lt : ∀ j b, l[j]? = some b → eligible b → ¬ key i a < key j b
  not_beq : ∀ j b, l[j]? = some b → eligible b → j < i → (key j b == key i a) = false

/-- The first of the eligible elements with the greatest key is chosen, and nothing when no
element is eligible. -/
structure IsChoice (l : List α) (eligible : α → Prop) (key : Nat → α → Float)
    (chosen : Option α) : Prop where
  eq_none_iff : chosen = none ↔ ∀ a ∈ l, ¬ eligible a
  isFirst : ∀ a, chosen = some a → ∃ i, IsFirstGreatest l eligible key i a

theorem isChoice_none {l : List α} {eligible : α → Prop} (key : Nat → α → Float)
    (h : ∀ a ∈ l, ¬ eligible a) : IsChoice l eligible key none where
  eq_none_iff := iff_of_true rfl h
  isFirst := nofun

theorem IsFirstGreatest.isChoice {l : List α} {eligible : α → Prop} {key : Nat → α → Float}
    {i : Nat} {a : α} (h : IsFirstGreatest l eligible key i a) :
    IsChoice l eligible key (some a) where
  eq_none_iff := by
    refine iff_of_false (Option.some_ne_none a) fun hnone => ?_
    exact hnone a (List.mem_of_getElem? h.getElem?_eq) h.isEligible
  isFirst b hb := ⟨i, Option.some.inj hb ▸ h⟩

theorem foldl_greaterKey_cases (keyed : List (α × Float)) (best : α × Float) :
    (keyed.foldl greaterKey (some best) = some best ∧ ∀ entry ∈ keyed, ¬ best.2 < entry.2) ∨
      ∃ before chosen after, keyed = before ++ chosen :: after ∧
        keyed.foldl greaterKey (some best) = some chosen ∧ best.2 < chosen.2 ∧
        (∀ entry ∈ before, ¬ chosen.2 ≤ entry.2) ∧ ∀ entry ∈ after, ¬ chosen.2 < entry.2 := by
  induction keyed generalizing best with
  | nil => exact .inl ⟨rfl, by simp⟩
  | cons next keyed ih =>
      rw [List.foldl_cons]
      by_cases hnext : best.2 < next.2
      · rw [show greaterKey (some best) next = some next from if_pos hnext]
        rcases ih next with ⟨hkept, hall⟩ |
          ⟨before, chosen, after, rfl, hchosen, hlt, hbefore, hafter⟩
        · exact .inr ⟨[], next, keyed, rfl, hkept, hnext, by simp, hall⟩
        · refine .inr ⟨next :: before, chosen, after, rfl, hchosen,
            Number.lt_of_le_of_lt (Number.le_of_lt hnext) hlt, ?_, hafter⟩
          exact List.forall_mem_cons.mpr ⟨fun hle => Number.not_lt_of_le hle hlt, hbefore⟩
      · rw [show greaterKey (some best) next = some best from if_neg hnext]
        rcases ih best with ⟨hkept, hall⟩ |
          ⟨before, chosen, after, rfl, hchosen, hlt, hbefore, hafter⟩
        · exact .inl ⟨hkept, List.forall_mem_cons.mpr ⟨hnext, hall⟩⟩
        · refine .inr ⟨next :: before, chosen, after, rfl, hchosen, hlt, ?_, hafter⟩
          exact List.forall_mem_cons.mpr
            ⟨fun hle => hnext (Number.lt_of_lt_of_le hlt hle), hbefore⟩

theorem firstGreatest?_cases {keyed : List (α × Float)} {a : α}
    (h : firstGreatest? keyed = some a) :
    ∃ before key after, keyed = before ++ (a, key) :: after ∧
      (∀ entry ∈ before, ¬ key ≤ entry.2) ∧ ∀ entry ∈ after, ¬ key < entry.2 := by
  obtain ⟨⟨a, key⟩, hfold, rfl⟩ := Option.map_eq_some_iff.mp h
  cases keyed with
  | nil => cases hfold
  | cons first keyed =>
      have hstart : keyed.foldl greaterKey (some first) = some (a, key) := hfold
      rcases foldl_greaterKey_cases keyed first with ⟨hkept, hall⟩ |
        ⟨before, chosen, after, rfl, hchosen, hlt, hbefore, hafter⟩
      · obtain rfl := Option.some.inj (hkept.symm.trans hstart)
        exact ⟨[], key, keyed, rfl, by simp, hall⟩
      · obtain rfl := Option.some.inj (hchosen.symm.trans hstart)
        refine ⟨first :: before, key, after, rfl, ?_, hafter⟩
        exact List.forall_mem_cons.mpr ⟨fun hle => Number.not_lt_of_le hle hlt, hbefore⟩

/-- Elements that are passed over keep their positions. -/
theorem exists_firstGreatest?_filter {keyed : List (α × Float)} {eligible : α × Float → Bool}
    {a : α} (h : firstGreatest? (keyed.filter eligible) = some a) :
    ∃ i key, IsFirstGreatest keyed (fun entry => eligible entry = true) (fun _ entry => entry.2) i
      (a, key) := by
  obtain ⟨before, key, after, hfilter, hbefore, hafter⟩ := firstGreatest?_cases h
  obtain ⟨early, late, rfl, rfl, hlate⟩ := List.filter_eq_append_iff.mp hfilter
  obtain ⟨passed, rest, rfl, hpassed, heligible, rfl⟩ := List.filter_eq_cons_iff.mp hlate
  have hearly : ∀ entry ∈ early ++ passed, eligible entry = true → ¬ key ≤ entry.2 := by
    intro entry hentry hentry'
    rcases List.mem_append.mp hentry with hmem | hmem
    · exact hbefore entry (List.mem_filter.mpr ⟨hmem, hentry'⟩)
    · exact absurd hentry' (hpassed entry hmem)
  rw [← List.append_assoc]
  refine ⟨(early ++ passed).length, key, ?_, heligible, ?_, ?_⟩
  · rw [List.getElem?_append_right (Nat.le_refl _), Nat.sub_self, List.getElem?_cons_zero]
  · intro j entry hj hentry
    rcases List.mem_append.mp (List.mem_of_getElem? hj) with hmem | hmem
    · exact fun hlt => hearly entry hmem hentry (Number.le_of_lt hlt)
    · rcases List.mem_cons.mp hmem with rfl | hmem
      · exact Number.lt_irrefl key
      · exact hafter entry (List.mem_filter.mpr ⟨hmem, hentry⟩)
  · intro j entry hj hentry hlt
    rw [List.getElem?_append_left hlt] at hj
    by_contra hequal
    exact hearly entry (List.mem_of_getElem? hj) hentry
      (Number.le_of_beq (eq_true_of_ne_false hequal))

/-- What is chosen among the images of some elements is chosen among the elements. -/
theorem IsFirstGreatest.of_mapIdx {l : List α} {f : Nat → α → β} (eligible : α → Prop)
    (key : Nat → α → Float) {eligible' : β → Prop} {key' : Nat → β → Float} {i : Nat} {b : β}
    (h : IsFirstGreatest (l.mapIdx f) eligible' key' i b)
    (heligible : ∀ i a, eligible' (f i a) ↔ eligible a)
    (hkey : ∀ i a, key' i (f i a) = key i a) :
    ∃ a, f i a = b ∧ IsFirstGreatest l eligible key i a := by
  have himage : ∀ {j : Nat} {a : α}, l[j]? = some a → (l.mapIdx f)[j]? = some (f j a) := by
    intro j a hj
    rw [List.getElem?_mapIdx, hj, Option.map_some]
  obtain ⟨a, ha, rfl⟩ : ∃ a, l[i]? = some a ∧ f i a = b := by
    simpa [List.getElem?_mapIdx] using h.getElem?_eq
  refine ⟨a, rfl, ha, (heligible i a).mp h.isEligible, ?_, ?_⟩
  · intro j c hj hc
    rw [← hkey, ← hkey]
    exact h.not_lt j (f j c) (himage hj) ((heligible j c).mpr hc)
  · intro j c hj hc hlt
    rw [← hkey, ← hkey]
    exact h.not_beq j (f j c) (himage hj) ((heligible j c).mpr hc) hlt

end FirstGreatest

/-! ## The smallest distance -/

theorem foldl_smaller_mem (distances : List Float) (least : Float) :
    distances.foldl smaller least ∈ least :: distances := by
  induction distances generalizing least with
  | nil => exact List.mem_cons_self
  | cons d distances ih =>
      have hchoice : smaller least d = least ∨ smaller least d = d := by
        unfold smaller
        split_ifs <;> simp
      rw [List.foldl_cons]
      rcases List.mem_cons.mp (ih (smaller least d)) with hkept | hmem
      · rw [hkept]
        rcases hchoice with h | h <;> simp [h]
      · exact List.mem_cons_of_mem _ (List.mem_cons_of_mem _ hmem)

section Least

variable {distance : SparseVector → SparseVector → Float} {centroids : List Centroid}
  {position : SparseVector}

/-- The smallest of the distances from a position to some centroids, without those that
are not numbers.  It is infinite when there are no others. -/
structure IsLeastDistance (distance : SparseVector → SparseVector → Float)
    (centroids : List Centroid) (position : SparseVector) (least : Float) : Prop where
  isNumber : least.isNaN = false
  le : ∀ c ∈ centroids, (distance position c.position).isNaN = false →
    least ≤ distance position c.position
  attained : least = infiniteDistance ∨ ∃ c ∈ centroids, distance position c.position = least

/-- The distance from a position to the nearest of some centroids. -/
def leastDistance (distance : SparseVector → SparseVector → Float) (centroids : List Centroid)
    (position : SparseVector) : Float :=
  (centroids.map fun c => distance position c.position).foldl smaller infiniteDistance

theorem isLeastDistance_leastDistance (distance : SparseVector → SparseVector → Float)
    (centroids : List Centroid) (position : SparseVector) :
    IsLeastDistance distance centroids position (leastDistance distance centroids position) where
  isNumber := isNaN_foldl_smaller Number.isNaN_infiniteDistance _
  le c hc hnumber := (foldl_smaller_le_iff Number.isNaN_infiniteDistance _).mpr
    (.inr ⟨_, List.mem_map_of_mem hc, Number.le_refl_of_not_isNaN hnumber⟩)
  attained := by
    rcases List.mem_cons.mp (foldl_smaller_mem _ infiniteDistance) with h | h
    · exact .inl h
    · exact .inr (List.mem_map.mp h)

/-- The two tests for a distance above zero agree. -/
theorem not_leastDistance_le_zero_iff :
    ¬ leastDistance distance centroids position ≤ 0.0 ↔
      0.0 < leastDistance distance centroids position := by
  have hnumber := (isLeastDistance_leastDistance distance centroids position).isNumber
  exact ⟨Number.lt_of_not_le Number.isNaN_zero hnumber,
    fun hlt hle => Number.not_lt_of_le hle hlt⟩

variable {σ ρ : Type} {store : PointStore σ ρ}

theorem PointStore.Measures.minDistance?_eq (h : store.Measures distance position centroids) :
    store.minDistance? position centroids = some (leastDistance distance centroids position) := by
  rw [minDistance?, h.distances?_eq, Option.map_some, List.map_map]
  rfl

theorem PointStore.Measures.answers_minDistance (h : store.Measures distance position centroids)
    (session : Session σ ρ) : (store.minDistance position centroids).Answers session
      (leastDistance distance centroids position) session := by
  rw [minDistance_eq, answers_expect_iff]
  exact ⟨h.minDistance?_eq, rfl⟩

end Least

/-! ## Choosing among candidates -/

namespace SeedPlan

variable {σ ρ : Type} {store : PointStore σ ρ} {centroids : List Centroid}
  {distance : SparseVector → SparseVector → Float} {points : List Point}
  {session : Session σ ρ}

section Candidates

variable [RandomSource ρ]

/-- The number that is drawn after `i` others. -/
def drawAt (i : Nat) (source : ρ) : Float :=
  (unit (afterUnits i source)).1

/-- The candidates that some points are, with the numbers of a random source. -/
def candidatesOf (distance : SparseVector → SparseVector → Float) (centroids : List Centroid)
    (points : List Point) (source : ρ) : List Candidate :=
  points.mapIdx fun i p => ⟨p, leastDistance distance centroids p.position, drawAt i source⟩

theorem map_candidatesOf {α : Type} (f : Candidate → α) (points : List Point) (source : ρ) :
    (candidatesOf distance centroids points source).map f = points.mapIdx fun i p =>
      f ⟨p, leastDistance distance centroids p.position, drawAt i source⟩ := by
  refine List.ext_getElem? fun i => ?_
  simp [candidatesOf, Function.comp_def]

theorem answers_weigh {p : Point} (h : store.Measures distance p.position centroids)
    (session : Session σ ρ) :
    (weigh store centroids p).Answers session
      ⟨p, leastDistance distance centroids p.position, (unit session.random).1⟩
      { session with random := (unit session.random).2 } := by
  have hdraw : (draw unit : Procedure σ ρ Float).Answers session (unit session.random).1
      { session with random := (unit session.random).2 } := rfl
  rw [weigh, hdraw.answers_bind_iff, (h.answers_minDistance _).answers_bind_iff]
  exact answers_pure_iff.mpr ⟨rfl, rfl⟩

theorem answers_mapM_weigh (h : ∀ p ∈ points, store.Measures distance p.position centroids)
    (session : Session σ ρ) :
    (points.mapM (weigh store centroids)).Answers session
      (candidatesOf distance centroids points session.random)
      { session with random := afterUnits points.length session.random } := by
  induction points generalizing session with
  | nil => exact answers_pure_iff.mpr ⟨rfl, rfl⟩
  | cons p points ih =>
      obtain ⟨hp, hpoints⟩ := List.forall_mem_cons.mp h
      rw [List.mapM_cons, (answers_weigh hp session).answers_bind_iff,
        (ih hpoints _).answers_bind_iff]
      refine answers_pure_iff.mpr ⟨?_, rfl⟩
      rw [candidatesOf, List.mapIdx_cons]
      rfl

theorem isChoice_pickWeighted? (exponent : Float) (points : List Point) (source : ρ) :
    IsChoice points (fun p => 0.0 < leastDistance distance centroids p.position)
      (fun i p => leastDistance distance centroids p.position * (drawAt i source).pow exponent)
      (pickWeighted? exponent (candidatesOf distance centroids points source)) := by
  cases hpick : pickWeighted? exponent (candidatesOf distance centroids points source) with
  | none =>
      refine isChoice_none _ fun p hp hpositive => ?_
      obtain ⟨i, hi⟩ := List.mem_iff_getElem?.mp hp
      refine not_leastDistance_le_zero_iff.mpr hpositive ?_
      refine pickWeighted?_eq_none_iff.mp hpick
        ⟨p, leastDistance distance centroids p.position, drawAt i source⟩ ?_
      refine List.mem_iff_getElem?.mpr ⟨i, ?_⟩
      rw [candidatesOf, List.getElem?_mapIdx, hi, Option.map_some]
  | some point =>
      obtain ⟨candidate, hgreatest, rfl⟩ := Option.map_eq_some_iff.mp hpick
      have hfilter : firstGreatest? (((candidatesOf distance centroids points source).map
          fun c => (c, c.score exponent)).filter fun entry => entry.1.isApart) =
            some candidate := by
        rw [List.filter_map]
        exact hgreatest
      rw [map_candidatesOf] at hfilter
      obtain ⟨i, key, hfirst⟩ := exists_firstGreatest?_filter hfilter
      obtain ⟨p, hp, hchosen⟩ := hfirst.of_mapIdx
        (fun p => 0.0 < leastDistance distance centroids p.position)
        (fun i p => leastDistance distance centroids p.position * (drawAt i source).pow exponent)
        (fun i p => by simp [Candidate.isApart, ← not_leastDistance_le_zero_iff])
        (fun i p => by rw [Candidate.score])
      obtain ⟨rfl, -⟩ := Prod.mk.inj hp
      exact hchosen.isChoice

end Candidates

/-! ## Choosing from a scan -/

theorem answers_measureScan {items : List (Reply Point)}
    (hpoints : items.map Reply.outcome = points.map .ok)
    (h : ∀ p ∈ points, store.Measures distance p.position centroids) (session : Session σ ρ) :
    (items.mapM fun (item : Reply Point) => do
      let point ← check item.outcome
      let distance ← store.minDistance point.position centroids
      return (point, distance)).Answers session
        (points.map fun p => (p, leastDistance distance centroids p.position)) session := by
  induction items generalizing points with
  | nil =>
      obtain rfl : points = [] := List.map_eq_nil_iff.mp hpoints.symm
      exact answers_pure_iff.mpr ⟨rfl, rfl⟩
  | cons item items ih =>
      obtain ⟨p, points, rfl, hitem, hitems⟩ := List.map_eq_cons_iff.mp hpoints.symm
      obtain ⟨hp, hrest⟩ := List.forall_mem_cons.mp h
      have hread : (do
          let point ← check item.outcome
          let distance ← store.minDistance point.position centroids
          return (point, distance) : Procedure σ ρ (Point × Float)).Answers session
            (p, leastDistance distance centroids p.position) session := by
        rw [(answers_check_iff.mpr ⟨hitem.symm, rfl⟩).answers_bind_iff,
          (hp.answers_minDistance session).answers_bind_iff]
        exact answers_pure_iff.mpr ⟨rfl, rfl⟩
      rw [List.mapM_cons, hread.answers_bind_iff, (ih hitems.symm hrest).answers_bind_iff]
      exact answers_pure_iff.mpr ⟨rfl, rfl⟩

theorem isChoice_pickFarthest? (points : List Point) :
    IsChoice points (fun p => 0.0 < leastDistance distance centroids p.position)
      (fun _ p => leastDistance distance centroids p.position)
      (pickFarthest? (points.map fun p => (p, leastDistance distance centroids p.position))) := by
  cases hpick : pickFarthest?
      (points.map fun p => (p, leastDistance distance centroids p.position)) with
  | none =>
      refine isChoice_none _ fun p hp => ?_
      exact pickFarthest?_eq_none_iff.mp hpick (p, leastDistance distance centroids p.position)
        (List.mem_map_of_mem hp)
  | some point =>
      have hkeyed : (points.map fun p => (p, leastDistance distance centroids p.position)) =
          points.mapIdx fun _ p => (p, leastDistance distance centroids p.position) :=
        List.ext_getElem? fun i => by simp
      rw [pickFarthest?, hkeyed] at hpick
      obtain ⟨i, key, hfirst⟩ := exists_firstGreatest?_filter hpick
      obtain ⟨p, hp, hchosen⟩ := hfirst.of_mapIdx
        (fun p => 0.0 < leastDistance distance centroids p.position)
        (fun _ p => leastDistance distance centroids p.position)
        (fun i p => by simp) (fun i p => by simp)
      obtain ⟨rfl, -⟩ := Prod.mk.inj hp
      exact hchosen.isChoice

/-! ## The choices of a round -/

/-- Both choices of a round go to the first of the greatest, for every distance, every
exponent and every random source.  A point can be chosen when the smallest of its
distances to the centroids is above zero.  Among candidates the greatest product of this
distance with a power of the number drawn for the candidate decides, and one number is
drawn for each candidate, whether or not it can be chosen.  In a scan the distance alone
decides. -/
theorem chooses_first_of_greatest [RandomSource ρ] (plan : SeedPlan) (store : PointStore σ ρ)
    (distance : SparseVector → SparseVector → Float) (centroids : List Centroid)
    (session : Session σ ρ) :
    (∀ position, IsLeastDistance distance centroids position
      (leastDistance distance centroids position)) ∧
    (∀ points, (∀ p ∈ points, store.Measures distance p.position centroids) →
      ∃ chosen, (plan.pick store centroids points).Answers session chosen
          { session with random := afterUnits points.length session.random } ∧
        IsChoice points (fun p => 0.0 < leastDistance distance centroids p.position)
          (fun i p => leastDistance distance centroids p.position *
            (drawAt i session.random).pow plan.exponent) chosen) ∧
    ∀ items points, (store.scan session.store).1.outcome = .ok items →
      items.map Reply.outcome = points.map .ok →
      (∀ p ∈ points, store.Measures distance p.position centroids) →
        ∃ chosen after, (farthest? store centroids).Answers session chosen after ∧
          IsChoice points (fun p => 0.0 < leastDistance distance centroids p.position)
            (fun _ p => leastDistance distance centroids p.position) chosen := by
  refine ⟨isLeastDistance_leastDistance distance centroids, ?_, ?_⟩
  · intro points hmeasures
    refine ⟨_, ?_, isChoice_pickWeighted? plan.exponent points session.random⟩
    rw [pick, (answers_mapM_weigh hmeasures session).answers_bind_iff]
    exact answers_pure_iff.mpr ⟨rfl, rfl⟩
  · intro items points hscan hpoints hmeasures
    have hopen : store.openScan.Answers session items (afterCall store.scan session) :=
      answers_call_iff.mpr ⟨hscan, rfl⟩
    refine ⟨_, afterCall store.scan session, ?_, isChoice_pickFarthest? points⟩
    rw [farthest?, hopen.answers_bind_iff,
      (answers_measureScan hpoints hmeasures _).answers_bind_iff]
    exact answers_pure_iff.mpr ⟨rfl, rfl⟩

/-- Of three candidates only the second lies apart from the centroid at `1`.  Of the three
points of a scan the second and the third are equally far. -/
theorem chooses_first_of_greatest_onLine :
    let distance : SparseVector → SparseVector → Float :=
      fun a b => a.values.headD 0.0 - b.values.headD 0.0
    let candidates := pointsOnLine [1.0, 7.0, 0.5]
    let population : Population := ⟨(pointsOnLine [3.0, 6.0, 6.0]).toArray, by decide, by decide⟩
    let store : PointStore Unit SplitMix :=
      { population.store with metric := fun a b => some (distance a b) }
    let centroids := centroidsOnLine [1.0]
    let session : Session Unit SplitMix := { store := (), random := {} }
    let plan : SeedPlan := { k := 2 }
    (∃ after, (plan.pick store centroids candidates).Answers session (some ⟨2, .onLine 7.0⟩)
        after) ∧
      (∃ after, (farthest? store centroids).Answers session (some ⟨2, .onLine 6.0⟩) after) ∧
      ∃ i, IsFirstGreatest population.points.toList
        (fun p => 0.0 < leastDistance distance centroids p.position)
        (fun _ p => leastDistance distance centroids p.position) i ⟨2, .onLine 6.0⟩ := by
  intro distance candidates population store centroids session plan
  obtain ⟨-, hpick, hfarthest⟩ := plan.chooses_first_of_greatest store distance centroids session
  obtain ⟨picked, hpicked, hpickedChoice⟩ := hpick candidates fun _ _ _ _ => rfl
  have honly : ∀ p ∈ candidates, 0.0 < leastDistance distance centroids p.position ↔
      p = ⟨2, .onLine 7.0⟩ := by
    decide +kernel
  have hpickedEq : picked = some ⟨2, .onLine 7.0⟩ := by
    cases picked with
    | none =>
        have hmem : (⟨2, .onLine 7.0⟩ : Point) ∈ candidates := by decide +kernel
        exact absurd ((honly _ hmem).mpr rfl) (hpickedChoice.eq_none_iff.mp rfl _ hmem)
    | some p =>
        obtain ⟨i, hfirst⟩ := hpickedChoice.isFirst p rfl
        have hmem := List.mem_of_getElem? hfirst.getElem?_eq
        rw [(honly p hmem).mp hfirst.isEligible]
  have hfar : (farthest? store centroids).outcome session = .ok (some ⟨2, .onLine 6.0⟩) := by
    decide +kernel
  obtain ⟨found, after, hfound, hfoundChoice⟩ :=
    hfarthest _ population.points.toList rfl rfl fun _ _ _ _ => rfl
  obtain rfl := Except.ok.inj (hfound.outcome_eq.symm.trans hfar)
  exact ⟨⟨_, hpickedEq ▸ hpicked⟩, ⟨after, hfound⟩, hfoundChoice.isFirst _ rfl⟩

end SeedPlan

end SampledKmeans
