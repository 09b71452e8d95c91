import SampledKmeans.Seeding
import SampledKmeans.Proofs.Procedure

/-!
# How many centroids are seeded

Seeding answers with at least one centroid and with no more than it was asked
for, whatever the store samples and scans.  They are numbered in order, and the
point of each is one of those among which it was chosen.
-/

namespace SampledKmeans

/-! ## What is chosen is among the candidates -/

theorem foldl_greaterKey_mem {α : Type} {keyed : List (α × Float)} {best : Option (α × Float)}
    {found : α × Float} (h : keyed.foldl greaterKey best = some found) :
    best = some found ∨ found ∈ keyed := by
  induction keyed generalizing best with
  | nil => exact .inl h
  | cons next keyed ih =>
      rw [List.foldl_cons] at h
      rcases ih h with hbest | hmem
      · have hchoice : greaterKey best next = best ∨ greaterKey best next = some next := by
          unfold greaterKey
          cases best with
          | none => exact .inr rfl
          | some best =>
              dsimp only
              split_ifs
              · exact .inr rfl
              · exact .inl rfl
        rcases hchoice with heq | heq
        · exact .inl (heq.symm.trans hbest)
        · rw [heq, Option.some.injEq] at hbest
          exact .inr (hbest ▸ List.mem_cons_self)
      · exact .inr (List.mem_cons_of_mem _ hmem)

theorem firstGreatest?_mem {α : Type} {keyed : List (α × Float)} {a : α}
    (h : firstGreatest? keyed = some a) : ∃ key, (a, key) ∈ keyed := by
  obtain ⟨⟨a', key⟩, hfound, rfl⟩ := Option.map_eq_some_iff.mp h
  rcases foldl_greaterKey_mem hfound with hnone | hmem
  · cases hnone
  · exact ⟨key, hmem⟩

theorem pickWeighted?_mem {exponent : Float} {candidates : List Candidate} {point : Point}
    (h : pickWeighted? exponent candidates = some point) :
    ∃ candidate ∈ candidates, candidate.isApart = true ∧ candidate.point = point := by
  obtain ⟨candidate, hgreatest, rfl⟩ := Option.map_eq_some_iff.mp h
  obtain ⟨key, hmem⟩ := firstGreatest?_mem hgreatest
  obtain ⟨c, hc, heq⟩ := List.mem_map.mp hmem
  obtain ⟨rfl, -⟩ := Prod.mk.inj heq
  obtain ⟨hcandidate, hapart⟩ := List.mem_filter.mp hc
  exact ⟨c, hcandidate, hapart, rfl⟩

theorem pickFarthest?_mem {measured : List (Point × Float)} {point : Point}
    (h : pickFarthest? measured = some point) : ∃ d, (point, d) ∈ measured ∧ 0.0 < d := by
  obtain ⟨d, hmem⟩ := firstGreatest?_mem h
  obtain ⟨hmeasured, hpos⟩ := List.mem_filter.mp hmem
  exact ⟨d, hmeasured, of_decide_eq_true hpos⟩

/-! ## When nothing is chosen -/

theorem isSome_foldl_greaterKey {α : Type} (keyed : List (α × Float)) (best : α × Float) :
    (keyed.foldl greaterKey (some best)).isSome = true := by
  induction keyed generalizing best with
  | nil => rfl
  | cons next keyed ih =>
      rw [List.foldl_cons, greaterKey]
      split_ifs
      · exact ih next
      · exact ih best

theorem firstGreatest?_eq_none_iff {α : Type} {keyed : List (α × Float)} :
    firstGreatest? keyed = none ↔ keyed = [] := by
  cases keyed with
  | nil => simp [firstGreatest?]
  | cons first keyed =>
      have hsome : ((first :: keyed).foldl greaterKey none).isSome = true :=
        isSome_foldl_greaterKey keyed first
      rw [firstGreatest?, Option.map_eq_none_iff, ← Option.not_isSome_iff_eq_none, hsome]
      simp

theorem pickWeighted?_eq_none_iff {exponent : Float} {candidates : List Candidate} :
    pickWeighted? exponent candidates = none ↔ ∀ c ∈ candidates, c.distance ≤ 0.0 := by
  rw [pickWeighted?, Option.map_eq_none_iff, firstGreatest?_eq_none_iff, List.map_eq_nil_iff,
    List.filter_eq_nil_iff]
  simp [Candidate.isApart]

theorem pickFarthest?_eq_none_iff {measured : List (Point × Float)} :
    pickFarthest? measured = none ↔ ∀ entry ∈ measured, ¬ 0.0 < entry.2 := by
  rw [pickFarthest?, firstGreatest?_eq_none_iff, List.filter_eq_nil_iff]
  simp

namespace SeedPlan

open Procedure

variable {σ ρ : Type} [RandomSource ρ] {store : PointStore σ ρ} {plan : SeedPlan}
  {session after : Session σ ρ}

/-- A round draws and weighs its candidates, and looks for the farthest point when none of
them can be chosen. -/
theorem next?_eq (plan : SeedPlan) (store : PointStore σ ρ) (pool : Nat)
    (centroids : List Centroid) :
    plan.next? store pool centroids = (do
      let points ← store.drawSample pool
      let candidates ← points.mapM (weigh store centroids)
      match pickWeighted? plan.exponent candidates with
      | some point => return some point
      | none => farthest? store centroids) := by
  unfold next?
  refine bind_congr fun points => ?_
  rw [pick, bind_assoc]
  exact bind_congr fun candidates => pure_bind _ _

/-- Each round adds one centroid or ends the seeding. -/
theorem length_bounds_of_grow {pool remaining : Nat} {centroids result : List Centroid}
    (h : (plan.grow store pool remaining centroids).Answers session result after) :
    centroids.length ≤ result.length ∧ result.length ≤ centroids.length + remaining := by
  induction remaining generalizing centroids session with
  | zero =>
      rw [grow, answers_pure_iff] at h
      rw [h.1]
      exact ⟨Nat.le_refl _, Nat.le_refl _⟩
  | succ remaining ih =>
      rw [grow, answers_bind_iff] at h
      obtain ⟨chosen, between, -, hrest⟩ := h
      cases chosen with
      | some point =>
          have hbounds := ih hrest
          rw [List.length_append, List.length_singleton] at hbounds
          omega
      | none =>
          obtain ⟨_, _, -, hpure⟩ := answers_bind_iff.mp hrest
          rw [(answers_pure_iff.mp hpure).1]
          omega

theorem bounds_of_seed {seeding : Seeding} (h : (plan.seed store).Answers session seeding after) :
    seeding.requested = plan.k ∧ 1 ≤ seeding.achieved ∧ seeding.achieved ≤ plan.k := by
  obtain ⟨pool, _, hcoverage, hrest⟩ := answers_bind_iff.mp h
  have hk : plan.k ≠ 0 := by
    intro hzero
    have hpool := (answers_check_iff.mp hcoverage).1
    rw [coverage, if_pos hzero] at hpool
    cases hpool
  obtain ⟨sampled, _, -, hrest⟩ := answers_bind_iff.mp hrest
  cases sampled with
  | nil => exact absurd hrest not_answers_fail
  | cons first _ =>
      obtain ⟨_, _, -, hrest⟩ := answers_bind_iff.mp hrest
      obtain ⟨centroids, _, hgrow, hpure⟩ := answers_bind_iff.mp hrest
      obtain rfl := (answers_pure_iff.mp hpure).1
      have hbounds := length_bounds_of_grow hgrow
      rw [List.length_singleton] at hbounds
      refine ⟨rfl, hbounds.1, ?_⟩
      change centroids.length ≤ plan.k
      omega

/-! ## Their numbers -/

theorem ids_eq_of_grow {pool remaining : Nat} {centroids result : List Centroid}
    (hids : centroids.map Centroid.id = List.range' 1 centroids.length)
    (h : (plan.grow store pool remaining centroids).Answers session result after) :
    result.map Centroid.id = List.range' 1 result.length := by
  induction remaining generalizing centroids session with
  | zero =>
      rw [grow, answers_pure_iff] at h
      rw [h.1]
      exact hids
  | succ remaining ih =>
      rw [grow, answers_bind_iff] at h
      obtain ⟨chosen, between, -, hrest⟩ := h
      cases chosen with
      | some point =>
          refine ih ?_ hrest
          rw [List.map_append, List.length_append, hids, List.length_singleton, List.range'_concat]
          simp [Nat.add_comm]
      | none =>
          obtain ⟨_, _, -, hpure⟩ := answers_bind_iff.mp hrest
          rw [(answers_pure_iff.mp hpure).1]
          exact hids

theorem ids_eq_of_seed {seeding : Seeding} (h : (plan.seed store).Answers session seeding after) :
    seeding.centroids.map Centroid.id = List.range' 1 seeding.achieved := by
  obtain ⟨pool, _, -, hrest⟩ := answers_bind_iff.mp h
  obtain ⟨sampled, _, -, hrest⟩ := answers_bind_iff.mp hrest
  cases sampled with
  | nil => exact absurd hrest not_answers_fail
  | cons first _ =>
      obtain ⟨_, _, -, hrest⟩ := answers_bind_iff.mp hrest
      obtain ⟨centroids, _, hgrow, hpure⟩ := answers_bind_iff.mp hrest
      obtain rfl := (answers_pure_iff.mp hpure).1
      exact ids_eq_of_grow rfl hgrow

end SeedPlan

end SampledKmeans
