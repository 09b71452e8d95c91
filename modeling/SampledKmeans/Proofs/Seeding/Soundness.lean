import SampledKmeans.Random.SplitMix
import SampledKmeans.Store.Scripted
import SampledKmeans.Proofs.Nearest.Coincidence
import SampledKmeans.Proofs.Refinement.Run
import SampledKmeans.Proofs.Seeding.Rounds
import SampledKmeans.Proofs.Store.Scan
import SampledKmeans.Proofs.Store.Record

/-!
# What a seeding asks for, and what it chooses

A seeding calls its store in rounds: one sample each, and perhaps a scan
(`SeedRound`).  Every round but the last one chooses a centroid, which it was
offered and which is apart from the centroids before it.  The last one may do so
as well, or find in a scan that every point coincides with a centroid, or fail.

The calls are those that a recording store writes down (`SeedPlan.calls`).  Each
step of the recursion is one round (`exists_round_of_next?`), and the rounds of a
whole run are put together along it (`exists_rounds_of_grow`).  What the
centroids are then follows from the rounds that chose them (`Chosen`).
-/

namespace SampledKmeans

open Procedure

/-- The calls of one round of a seeding: a sample, and a scan if the sample did
not do. -/
structure SeedRound where
  amount : Nat
  sample : Reply (List Point)
  scan : Option (Reply (List (Reply Point)))
  deriving DecidableEq

namespace SeedRound

variable {σ ρ : Type}

/-- The calls of the round, in order. -/
def calls (round : SeedRound) : List Call :=
  .sample round.amount round.sample :: round.scan.toList.map .scan

/-- The store answered the round with this point, among others. -/
inductive Offers (round : SeedRound) (point : Point) : Prop where
  | sampled {points : List Point} (ok : round.sample.outcome = .ok points) (mem : point ∈ points)
  | scanned {reply : Reply (List (Reply Point))} {items : List (Reply Point)} {item : Reply Point}
      (made : round.scan = some reply) (ok : reply.outcome = .ok items) (mem : item ∈ items)
      (read : item.outcome = .ok point)

/-- If the round scans, then there are centroids already, and every point that it
sampled coincides with one of them. -/
def ScansLast (round : SeedRound) (store : PointStore σ ρ) (centroids : List Centroid) : Prop :=
  round.scan ≠ none → centroids ≠ [] ∧
    ∃ points, round.sample.outcome = .ok points ∧ ∀ p ∈ points, store.Coincides centroids p.position

/-- The round scans all points, and each of them coincides with a centroid. -/
def FindsNone (round : SeedRound) (store : PointStore σ ρ) (centroids : List Centroid) : Prop :=
  ∃ reply items points, round.scan = some reply ∧ reply.outcome = .ok items ∧
    PointStore.collect items = .ok points ∧ ∀ p ∈ points, store.Coincides centroids p.position

/-- What the round comes to. -/
def Chooses (round : SeedRound) (store : PointStore σ ρ) (centroids : List Centroid) :
    Option Point → Prop
  | some point => round.Offers point ∧ store.Apart centroids point.position
  | none => round.FindsNone store centroids

/-- A round draws one sample. -/
theorem countP_sample (rounds : List SeedRound) :
    (rounds.flatMap calls).countP (·.operation = "sample") = rounds.length := by
  induction rounds with
  | nil => rfl
  | cons round rounds ih =>
      have hround : round.calls.countP (·.operation = "sample") = 1 := by
        rcases round with ⟨amount, sample, _ | scan⟩ <;> rfl
      rw [List.flatMap_cons, List.countP_append, hround, ih, List.length_cons, Nat.add_comm]

/-- A round scans at most once. -/
theorem countP_scan_le (rounds : List SeedRound) :
    (rounds.flatMap calls).countP (·.operation = "scan") ≤ rounds.length := by
  induction rounds with
  | nil => exact Nat.le_refl 0
  | cons round rounds ih =>
      have hround : round.calls.countP (·.operation = "scan") ≤ 1 := by
        rcases round with ⟨amount, sample, _ | scan⟩
        · exact Nat.zero_le 1
        · exact Nat.le_refl 1
      rw [List.flatMap_cons, List.countP_append, List.length_cons, Nat.add_comm]
      exact Nat.add_le_add ih hround

end SeedRound

variable {σ ρ : Type} {store : PointStore σ ρ} {rounds : List SeedRound}
  {centroids : List Centroid}

/-! ## Rounds that choose centroids -/

/-- Rounds, each of which chose one of the centroids. -/
inductive Chosen (store : PointStore σ ρ) : List SeedRound → List Centroid → Prop
  | nil : Chosen store [] []
  | snoc {rounds : List SeedRound} {centroids : List Centroid} (h : Chosen store rounds centroids)
      {round : SeedRound} {point : Point} (scansLast : round.ScansLast store centroids)
      (chooses : round.Chooses store centroids (some point)) :
      Chosen store (rounds ++ [round])
        (centroids ++ [⟨centroids.length + 1, point.position⟩])

namespace Chosen

theorem length_eq (h : Chosen store rounds centroids) : rounds.length = centroids.length := by
  induction h with
  | nil => rfl
  | snoc _ _ _ ih => rw [List.length_append, List.length_append, ih]; rfl

theorem ids_eq (h : Chosen store rounds centroids) :
    centroids.map Centroid.id = List.range' 1 centroids.length := by
  induction h with
  | nil => rfl
  | snoc _ _ _ ih =>
      rw [List.map_append, ih, List.length_append, List.length_singleton, List.range'_concat]
      simp [Nat.add_comm]

/-- Every centroid was offered in its round. -/
theorem offered (h : Chosen store rounds centroids) :
    List.Forall₂ (fun c (round : SeedRound) => ∃ point, round.Offers point ∧
      c.position = point.position) centroids rounds := by
  induction h with
  | nil => exact .nil
  | snoc _ _ hchooses ih =>
      exact List.rel_append ih (.cons ⟨_, hchooses.1, rfl⟩ .nil)

/-- Every centroid is apart from those before it. -/
theorem apart (h : Chosen store rounds centroids) :
    centroids.Pairwise fun earlier later =>
      ∃ d, store.metric later.position earlier.position = some d ∧ ¬ d ≤ 0.0 := by
  induction h with
  | nil => exact .nil
  | snoc _ _ hchooses ih =>
      refine List.pairwise_append.mpr ⟨ih, List.pairwise_singleton _ _, fun earlier hearlier => ?_⟩
      exact List.forall_mem_singleton.mpr (hchooses.2 earlier hearlier)

theorem scansLast (h : Chosen store rounds centroids) {i : Nat} {round : SeedRound}
    (hround : rounds[i]? = some round) : round.ScansLast store (centroids.take i) := by
  induction h with
  | nil => simp at hround
  | @snoc rounds centroids h last point hscans _ ih =>
      rcases Nat.lt_trichotomy i rounds.length with hlt | rfl | hgt
      · rw [List.getElem?_append_left hlt] at hround
        rw [List.take_append_of_le_length (h.length_eq ▸ Nat.le_of_lt hlt)]
        exact ih hround
      · rw [List.getElem?_concat_length] at hround
        obtain rfl := Option.some.inj hround
        rw [h.length_eq, List.take_left']
        · exact hscans
        · rfl
      · rw [List.getElem?_eq_none (by simpa using hgt)] at hround
        cases hround

end Chosen

/-! ## The rounds of a run -/

namespace SeedPlan

variable {plan : SeedPlan}

/-- The rounds of a seeding that has come to an end: those that chose a centroid each,
and perhaps one more that did not. -/
structure Ended (plan : SeedPlan) (store : PointStore σ ρ) (done : List SeedRound)
    (last : Option SeedRound) (chosen : List Centroid) : Prop where
  choose : Chosen store done chosen
  atMost : done.length + last.toList.length ≤ plan.k
  scansLast : ∀ round ∈ last, round.ScansLast store chosen

/-- A seeding that answers has all centroids, or its last round found no further one. -/
def IsComplete (plan : SeedPlan) (store : PointStore σ ρ) (last : Option SeedRound)
    (chosen : List Centroid) : Prop :=
  last = none ∧ chosen.length = plan.k ∨
    ∃ round, last = some round ∧ round.FindsNone store chosen

namespace Ended

variable {done : List SeedRound} {last : Option SeedRound} {chosen : List Centroid}

theorem scansLast_of_getElem? (h : plan.Ended store done last chosen) {i : Nat}
    {round : SeedRound} (hround : (done ++ last.toList)[i]? = some round) :
    round.ScansLast store (chosen.take i) := by
  rcases Nat.lt_or_ge i done.length with hlt | hge
  · rw [List.getElem?_append_left hlt] at hround
    exact h.choose.scansLast hround
  · rw [List.getElem?_append_right hge] at hround
    rw [List.take_of_length_le (h.choose.length_eq ▸ hge)]
    exact h.scansLast round (Option.mem_toList.mp (List.mem_of_getElem? hround))

theorem countP_sample_le (h : plan.Ended store done last chosen) :
    ((done ++ last.toList).flatMap SeedRound.calls).countP (·.operation = "sample") ≤ plan.k := by
  rw [SeedRound.countP_sample, List.length_append]
  exact h.atMost

/-- There is no scan in the first round. -/
theorem countP_scan_le (h : plan.Ended store done last chosen) :
    ((done ++ last.toList).flatMap SeedRound.calls).countP (·.operation = "scan") ≤
      plan.k - 1 := by
  have hatMost := h.atMost
  rw [← List.length_append] at hatMost
  cases hrounds : done ++ last.toList with
  | nil => exact Nat.zero_le _
  | cons first rest =>
      have hscan : first.scan = none := by
        by_contra hscan
        exact (h.scansLast_of_getElem? (i := 0) (by rw [hrounds]; rfl) hscan).1 rfl
      have hfirst : first.calls.countP (·.operation = "scan") = 0 := by
        rw [SeedRound.calls, hscan]
        rfl
      rw [List.flatMap_cons, List.countP_append, hfirst, Nat.zero_add]
      rw [hrounds, List.length_cons] at hatMost
      exact (SeedRound.countP_scan_le rest).trans (Nat.le_sub_one_of_lt hatMost)

end Ended

/-! ## One round -/

variable {before after session : Session σ ρ}

section Scan

/-- The points of a scan, each with its distance to the nearest centroid. -/
theorem answers_farthest? {chosen : Option Point}
    (h : (farthest? store centroids).Answers before chosen after) :
    ∃ items measured, (store.scan before.store).1.outcome = .ok items ∧
      List.Forall₂ (fun (item : Reply Point) (entry : Point × Float) =>
        item.outcome = .ok entry.1 ∧
          store.minDistance? entry.1.position centroids = some entry.2) items measured ∧
      chosen = pickFarthest? measured := by
  obtain ⟨items, _, hscan, hrest⟩ := answers_bind_iff.mp h
  obtain ⟨measured, _, hmeasures, hpure⟩ := answers_bind_iff.mp hrest
  obtain ⟨rfl, -⟩ := answers_pure_iff.mp hpure
  refine ⟨items, measured, (answers_call_iff.mp hscan).1, ?_, rfl⟩
  refine (forall₂_of_answers_mapM hmeasures).imp fun item entry hentry => ?_
  obtain ⟨_, _, hmeasure⟩ := hentry
  obtain ⟨point, _, hcheck, hdistances⟩ := answers_bind_iff.mp hmeasure
  obtain ⟨distance, _, hdistance, hpair⟩ := answers_bind_iff.mp hdistances
  obtain ⟨rfl, -⟩ := answers_pure_iff.mp hpair
  rw [PointStore.minDistance_eq] at hdistance
  exact ⟨(answers_check_iff.mp hcheck).1, (answers_expect_iff.mp hdistance).1⟩

/-- A scan offers the farthest point, or all of its points coincide with
centroids. -/
theorem chooses_of_farthest? {round : SeedRound} {chosen : Option Point}
    (hscan : round.scan = some (store.scan before.store).1)
    (h : (farthest? store centroids).Answers before chosen after) :
    round.Chooses store centroids chosen := by
  obtain ⟨items, measured, hok, hmeasured, rfl⟩ := answers_farthest? h
  cases hfarthest : pickFarthest? measured with
  | some point =>
      obtain ⟨d, hmem, hpos⟩ := pickFarthest?_mem hfarthest
      obtain ⟨item, hitem, hread, hdistance⟩ := exists_mem_left_of_forall₂ hmeasured hmem
      exact ⟨.scanned hscan hok hitem hread,
        PointStore.apart_of_minDistance? hdistance fun hle => Number.not_lt_of_le hle hpos⟩
  | none =>
      have hcollect : PointStore.collect items = .ok (measured.map Prod.fst) := by
        clear h hok hfarthest
        induction hmeasured with
        | nil => rfl
        | cons hentry _ ih => exact PointStore.collect_cons_iff.mpr ⟨_, _, hentry.1, ih, rfl⟩
      refine ⟨_, items, _, hscan, hok, hcollect, List.forall_mem_map.mpr fun entry hentry => ?_⟩
      obtain ⟨item, -, -, hdistance⟩ := exists_mem_left_of_forall₂ hmeasured hentry
      by_contra hnot
      exact pickFarthest?_eq_none_iff.mp hfarthest entry hentry
        ((PointStore.zero_lt_minDistance?_iff hdistance).mpr hnot)

theorem records_farthest? (store : PointStore σ ρ) (centroids : List Centroid)
    (session : Session σ ρ) :
    (farthest? store.recorded centroids).Records (farthest? store centroids) session
      [.scan (store.scan session.store).1] := by
  refine (store.records_plainScan session).bind_quiet fun items => ?_
  refine Quiet.bind (Quiet.mapM (fun item => ?_) items) fun measured => quiet_pure _
  refine (quiet_check item.outcome).bind fun point => ?_
  exact (store.quiet_minDistance none point.position centroids).bind fun distance =>
    quiet_pure (point, distance)

end Scan

/-! ### The candidates -/

section Candidates

variable {points : List Point} {candidates : List Candidate} {exponent : Float}

/-- The candidate of a point, measured against the centroids. -/
def Weighs (store : PointStore σ ρ) (centroids : List Centroid) (point : Point)
    (candidate : Candidate) : Prop :=
  candidate.point = point ∧
    store.minDistance? point.position centroids = some candidate.distance

theorem weighs_of_answers_mapM [RandomSource ρ]
    (h : (points.mapM (weigh store centroids)).Answers before candidates after) :
    List.Forall₂ (Weighs store centroids) points candidates := by
  refine (forall₂_of_answers_mapM h).imp fun point candidate hcandidate => ?_
  obtain ⟨_, _, hweigh⟩ := hcandidate
  obtain ⟨draw, _, -, hrest⟩ := answers_bind_iff.mp hweigh
  obtain ⟨distance, _, hdistance, hpure⟩ := answers_bind_iff.mp hrest
  obtain ⟨rfl, -⟩ := answers_pure_iff.mp hpure
  rw [PointStore.minDistance_eq] at hdistance
  exact ⟨rfl, (answers_expect_iff.mp hdistance).1⟩

theorem apart_of_pickWeighted? {point : Point}
    (h : List.Forall₂ (Weighs store centroids) points candidates)
    (hpick : pickWeighted? exponent candidates = some point) :
    point ∈ points ∧ store.Apart centroids point.position := by
  obtain ⟨candidate, hcandidate, hapart, rfl⟩ := pickWeighted?_mem hpick
  obtain ⟨_, hpoint, rfl, hdistance⟩ := exists_mem_left_of_forall₂ h hcandidate
  have hpositive : ¬ candidate.distance ≤ 0.0 := by simpa [Candidate.isApart] using hapart
  exact ⟨hpoint, PointStore.apart_of_minDistance? hdistance hpositive⟩

theorem coincide_of_pickWeighted? (h : List.Forall₂ (Weighs store centroids) points candidates)
    (hpick : pickWeighted? exponent candidates = none) :
    ∀ p ∈ points, store.Coincides centroids p.position := by
  intro p hp
  obtain ⟨candidate, hcandidate, -, hdistance⟩ := exists_mem_right_of_forall₂ h hp
  exact (PointStore.minDistance?_le_zero_iff hdistance).mp
    (pickWeighted?_eq_none_iff.mp hpick candidate hcandidate)

theorem quiet_weigh [RandomSource ρ] (store : PointStore σ ρ) (centroids : List Centroid)
    (point : Point) :
    (weigh store.recorded centroids point).Quiet (weigh store centroids point) := by
  refine (quiet_draw RandomSource.unit).bind fun draw => ?_
  exact (store.quiet_minDistance none point.position centroids).bind fun distance =>
    quiet_pure (Candidate.mk point distance draw)

end Candidates

/-! ### Both together -/

variable [RandomSource ρ]

/-- The calls of `next?` are those of a round, whether it answers or fails. -/
theorem exists_round_of_next? (plan : SeedPlan) (store : PointStore σ ρ) (pool : Nat)
    (hne : centroids ≠ []) (before : Session σ ρ) :
    ∃ round : SeedRound,
      (plan.next? store.recorded pool centroids).Records (plan.next? store pool centroids) before
        round.calls ∧
      round.ScansLast store centroids ∧
      ∀ chosen after, (plan.next? store pool centroids).Answers before chosen after →
        round.Chooses store centroids chosen := by
  rw [next?_eq, next?_eq]
  have hsample := store.records_plainSample before pool
  set reply := (store.sample pool before.random before.store).1
  let alone : SeedRound := ⟨pool, reply, none⟩
  have halone : alone.ScansLast store centroids := fun h => absurd rfl h
  rcases answers_or_fails (store.drawSample pool) before with
    ⟨points, sampled, hpoints⟩ | ⟨failure, failed, hfails⟩
  swap
  · exact ⟨alone, hsample.bind_of_fails hfails, halone,
      fun _ _ hnext => absurd hnext hfails.not_answers_bind⟩
  have hok : reply.outcome = .ok points := (answers_callRandom_iff.mp hpoints).1
  have hquiet := Quiet.mapM (quiet_weigh store centroids) points sampled
  rcases answers_or_fails (points.mapM (weigh store centroids)) sampled with
    ⟨candidates, weighed, hcandidates⟩ | ⟨failure, failed, hfails⟩
  swap
  · refine ⟨alone, hsample.bind_of_answers hpoints (hquiet.bind_of_fails hfails), halone,
      fun _ _ hnext => ?_⟩
    exact absurd (hpoints.answers_bind_iff.mp hnext) hfails.not_answers_bind
  have hweighs := weighs_of_answers_mapM hcandidates
  cases hpick : pickWeighted? plan.exponent candidates with
  | some point =>
      obtain ⟨hmem, hapart⟩ := apart_of_pickWeighted? hweighs hpick
      refine ⟨alone, hsample.bind_of_answers hpoints (hquiet.bind_of_answers hcandidates ?_),
        halone, fun _ _ hnext => ?_⟩
      · rw [hpick]
        exact quiet_pure (some point) weighed
      · have hrest := hcandidates.answers_bind_iff.mp (hpoints.answers_bind_iff.mp hnext)
        rw [hpick] at hrest
        obtain ⟨rfl, -⟩ := answers_pure_iff.mp hrest
        exact ⟨.sampled hok hmem, hapart⟩
  | none =>
      refine ⟨⟨pool, reply, some (store.scan weighed.store).1⟩,
        hsample.bind_of_answers hpoints (hquiet.bind_of_answers hcandidates ?_),
        fun _ => ⟨hne, points, hok, coincide_of_pickWeighted? hweighs hpick⟩,
        fun _ _ hnext => ?_⟩
      · rw [hpick]
        exact records_farthest? store centroids weighed
      · have hrest := hcandidates.answers_bind_iff.mp (hpoints.answers_bind_iff.mp hnext)
        rw [hpick] at hrest
        exact chooses_of_farthest? rfl hrest

/-! ## All rounds -/

/-- Growing goes in rounds. -/
theorem exists_rounds_of_grow (plan : SeedPlan) (store : PointStore σ ρ) (pool : Nat)
    {remaining : Nat} (hchosen : Chosen store rounds centroids) (hne : centroids ≠ [])
    (hremaining : centroids.length + remaining = plan.k) (before : Session σ ρ) :
    ∃ done last chosen,
      (plan.grow store.recorded pool remaining centroids).Records
        (plan.grow store pool remaining centroids) before
        ((done ++ last.toList).flatMap SeedRound.calls) ∧
      plan.Ended store (rounds ++ done) last chosen ∧
      ∀ result after, (plan.grow store pool remaining centroids).Answers before result after →
        result = chosen ∧ plan.IsComplete store last chosen := by
  induction remaining generalizing rounds centroids before with
  | zero =>
      have hall : rounds.length ≤ plan.k := hchosen.length_eq ▸ hremaining.le
      refine ⟨[], none, centroids, quiet_pure centroids before,
        ⟨by rwa [List.append_nil], by simpa using hall, by simp⟩, fun result after hgrow => ?_⟩
      obtain ⟨rfl, -⟩ := answers_pure_iff.mp hgrow
      exact ⟨rfl, .inl ⟨rfl, hremaining⟩⟩
  | succ remaining ih =>
      have hlength := hchosen.length_eq
      obtain ⟨round, hround, hscans, hchooses⟩ :=
        plan.exists_round_of_next? store pool hne before
      -- The round is the last one, unless it chooses a centroid.
      have hended : plan.Ended store (rounds ++ []) (some round) centroids :=
        ⟨by rwa [List.append_nil], by simp; omega, by simpa using hscans⟩
      have hcalls : ([] ++ (some round).toList).flatMap SeedRound.calls = round.calls := by simp
      rcases answers_or_fails (plan.next? store pool centroids) before with
        ⟨_ | point, between, hnext⟩ | ⟨failure, failed, hfails⟩
      · refine ⟨[], some round, centroids, ?_, hended, fun result after hgrow => ?_⟩
        · rw [hcalls, ← List.append_nil round.calls]
          exact hround.bind_of_answers hnext
            (((quiet_report _).bind fun _ => quiet_pure centroids) between)
        · obtain ⟨_, _, -, hpure⟩ := answers_bind_iff.mp (hnext.answers_bind_iff.mp hgrow)
          obtain ⟨rfl, -⟩ := answers_pure_iff.mp hpure
          exact ⟨rfl, .inr ⟨round, rfl, hchooses _ _ hnext⟩⟩
      · obtain ⟨done, last, chosen, hrecords, hdone, hanswers⟩ :=
          ih (hchosen.snoc hscans (hchooses _ _ hnext)) (by simp)
            (by rw [List.length_append, List.length_singleton]; omega) between
        refine ⟨round :: done, last, chosen, ?_, ?_, fun result after hgrow => ?_⟩
        · rw [List.cons_append, List.flatMap_cons]
          exact hround.bind_of_answers hnext hrecords
        · rwa [← List.append_cons] at hdone
        · exact hanswers result after (hnext.answers_bind_iff.mp hgrow)
      · refine ⟨[], some round, centroids, ?_, hended, fun _ _ hgrow => ?_⟩
        · rw [hcalls]
          exact hround.bind_of_fails hfails
        · exact absurd hgrow hfails.not_answers_bind

/-- What a seeding does once it has its first point. -/
def growFrom (plan : SeedPlan) (store : PointStore σ ρ) (draws : Nat) (first : Point) :
    Procedure σ ρ Seeding := do
  reserve plan.k
  let centroids ← plan.grow store (max draws 1) (plan.k - 1) [⟨1, first.position⟩]
  return { requested := plan.k, centroids }

theorem exists_rounds_of_growFrom (plan : SeedPlan) (store : PointStore σ ρ) (draws : Nat)
    {round : SeedRound} {first : Point} (hchosen : Chosen store [round] [⟨1, first.position⟩])
    (hpos : 1 ≤ plan.k) (before : Session σ ρ) :
    ∃ done last chosen,
      (plan.growFrom store.recorded draws first).Records (plan.growFrom store draws first) before
        ((done ++ last.toList).flatMap SeedRound.calls) ∧
      plan.Ended store (round :: done) last chosen ∧
      ∀ seeding after, (plan.growFrom store draws first).Answers before seeding after →
        seeding.centroids = chosen ∧ plan.IsComplete store last chosen := by
  have hreserve := @quiet_reserve σ ρ plan.k before
  rcases answers_or_fails (reserve plan.k) before with
    ⟨_, roomy, hroom⟩ | ⟨failure, failed, hfails⟩
  · have hlength : [(⟨1, first.position⟩ : Centroid)].length + (plan.k - 1) = plan.k := by
      rw [List.length_singleton]
      omega
    obtain ⟨done, last, chosen, hrecords, hended, hgrows⟩ :=
      plan.exists_rounds_of_grow store (max draws 1) hchosen (by simp) hlength roomy
    refine ⟨done, last, chosen, ?_, hended, fun seeding after hgrow => ?_⟩
    · refine hreserve.bind_of_answers hroom ?_
      exact hrecords.bind_quiet fun result => quiet_pure (Seeding.mk plan.k result)
    · obtain ⟨result, _, hresult, hpure⟩ := answers_bind_iff.mp (hroom.answers_bind_iff.mp hgrow)
      obtain ⟨rfl, -⟩ := answers_pure_iff.mp hpure
      exact hgrows _ _ hresult
  · refine ⟨[], none, _, hreserve.bind_of_fails hfails, ⟨hchosen, hpos, by simp⟩,
      fun _ _ hgrow => ?_⟩
    exact absurd hgrow hfails.not_answers_bind

/-- A seeding goes in rounds, whether it answers or fails. -/
theorem exists_rounds_of_seed (plan : SeedPlan) (store : PointStore σ ρ) (session : Session σ ρ) :
    ∃ done last chosen,
      (plan.seed store.recorded).Records (plan.seed store) session
        ((done ++ last.toList).flatMap SeedRound.calls) ∧
      plan.Ended store done last chosen ∧
      ∀ seeding after, (plan.seed store).Answers session seeding after →
        seeding.centroids = chosen ∧ plan.IsComplete store last chosen := by
  have hcheck := @quiet_check σ ρ Nat (coverage plan.k plan.confidence) session
  rcases answers_or_fails (check (coverage plan.k plan.confidence)) session with
    ⟨draws, before, hcovers⟩ | ⟨failure, failed, hfails⟩
  swap
  · exact ⟨[], none, [], hcheck.bind_of_fails hfails, ⟨.nil, Nat.zero_le _, by simp⟩,
      fun _ _ hseed => absurd hseed hfails.not_answers_bind⟩
  have hpos : 1 ≤ plan.k := k_pos_of_coverage (answers_check_iff.mp hcovers).1
  have hsample := store.records_plainSample before 1
  let first : SeedRound := ⟨1, (store.sample 1 before.random before.store).1, none⟩
  have hscans : first.ScansLast store [] := fun h => absurd rfl h
  have hnone : plan.Ended store [] (some first) [] :=
    ⟨.nil, hpos, by simpa using hscans⟩
  rcases answers_or_fails (store.drawSample 1) before with
    ⟨_ | ⟨point, rest⟩, sampled, hpoints⟩ | ⟨failure, failed, hfails⟩
  · refine ⟨[], some first, [], ?_, hnone, fun _ _ hseed => ?_⟩
    · exact hcheck.bind_of_answers hcovers (hsample.bind_of_answers hpoints (quiet_fail _ sampled))
    · have hfailed := hpoints.answers_bind_iff.mp (hcovers.answers_bind_iff.mp hseed)
      exact absurd hfailed not_answers_fail
  · have hchosen : Chosen store [first] [⟨1, point.position⟩] :=
      Chosen.nil.snoc hscans ⟨.sampled (answers_callRandom_iff.mp hpoints).1 List.mem_cons_self,
        by simp [PointStore.Apart]⟩
    obtain ⟨done, last, chosen, hrecords, hended, hgrows⟩ :=
      plan.exists_rounds_of_growFrom store draws hchosen hpos sampled
    refine ⟨first :: done, last, chosen, ?_, hended, fun seeding after hseed => ?_⟩
    · exact hcheck.bind_of_answers hcovers (hsample.bind_of_answers hpoints hrecords)
    · exact hgrows _ _ (hpoints.answers_bind_iff.mp (hcovers.answers_bind_iff.mp hseed))
  · refine ⟨[], some first, [], hcheck.bind_of_answers hcovers (hsample.bind_of_fails hfails),
      hnone, fun _ _ hseed => ?_⟩
    exact absurd (hcovers.answers_bind_iff.mp hseed) hfails.not_answers_bind

/-! ## The seeding -/

/-- The calls that a seeding gives its store, with the replies. -/
def calls (plan : SeedPlan) (store : PointStore σ ρ) (session : Session σ ρ) : List Call :=
  ((plan.seed store.recorded).runIn (session.recording [])).2.store.calls

theorem outcome_seed_recorded (plan : SeedPlan) (store : PointStore σ ρ)
    (session : Session σ ρ) (earlier : List Call) :
    (plan.seed store.recorded).outcome (session.recording earlier) =
      (plan.seed store).outcome session := by
  obtain ⟨_, _, _, hrecords, -⟩ := plan.exists_rounds_of_seed store session
  exact hrecords.outcome_eq earlier

/-- The centroids of a seeding, which went in the given rounds. -/
structure Sound (plan : SeedPlan) (store : PointStore σ ρ) (rounds : List SeedRound)
    (seeding : Seeding) : Prop where
  achieved : 1 ≤ seeding.achieved ∧ seeding.achieved ≤ plan.k
  ids : seeding.centroids.map Centroid.id = List.range' 1 seeding.achieved
  /-- The position of each centroid is that of a point that its round offered. -/
  offered : List.Forall₂ (fun c (round : SeedRound) => ∃ point, round.Offers point ∧
    c.position = point.position) seeding.centroids (rounds.take seeding.achieved)
  /-- The distance from each centroid to each earlier one is defined, and not at most
  zero. -/
  apart : seeding.centroids.Pairwise fun earlier later =>
    ∃ d, store.metric later.position earlier.position = some d ∧ ¬ d ≤ 0.0
  /-- If there are too few centroids, a scan after the last one found no point that
  coincides with none of them. -/
  short : seeding.achieved < plan.k → ∃ round, rounds[seeding.achieved]? = some round ∧
    round.FindsNone store seeding.centroids

/-- Whatever a store answers, its seeding is sound, and as large as it can be for the
metric of the store.  At most `k` samples are drawn and at most `k - 1` scans are made,
each of them after a sample of which every point coincides with a centroid. -/
theorem seed_sound (plan : SeedPlan) (store : PointStore σ ρ) (session : Session σ ρ) :
    ∃ (rounds : List SeedRound) (chosen : List Centroid),
      plan.calls store session = rounds.flatMap SeedRound.calls ∧
      (plan.calls store session).countP (·.operation = "sample") ≤ plan.k ∧
      (plan.calls store session).countP (·.operation = "scan") ≤ plan.k - 1 ∧
      (∀ (i : Nat) (round : SeedRound), rounds[i]? = some round →
        round.ScansLast store (chosen.take i)) ∧
      ∀ seeding, (plan.seed store).outcome session = .ok seeding →
        seeding.centroids = chosen ∧ plan.Sound store rounds seeding := by
  obtain ⟨done, last, chosen, hrecords, hended, hanswers⟩ :=
    plan.exists_rounds_of_seed store session
  have hcalls : plan.calls store session = (done ++ last.toList).flatMap SeedRound.calls := by
    rw [calls, hrecords []]
    rfl
  refine ⟨done ++ last.toList, chosen, hcalls, hcalls ▸ hended.countP_sample_le,
    hcalls ▸ hended.countP_scan_le, fun i round => hended.scansLast_of_getElem?,
    fun seeding hseeding => ?_⟩
  obtain ⟨after, hseed⟩ := outcome_eq_ok_iff.mp hseeding
  obtain ⟨rfl, hcomplete⟩ := hanswers seeding after hseed
  have hlength : done.length = seeding.achieved := hended.choose.length_eq
  refine ⟨rfl, (bounds_of_seed hseed).2, hended.choose.ids_eq, ?_, hended.choose.apart,
    fun hshort => ?_⟩
  · rw [List.take_left' hlength]
    exact hended.choose.offered
  · rcases hcomplete with ⟨-, hall⟩ | ⟨round, rfl, hnone⟩
    · exact absurd hall (Nat.ne_of_lt hshort)
    · refine ⟨round, ?_, hnone⟩
      rw [← hlength]
      exact List.getElem?_concat_length

/-- Two points, of which the third round samples only the first. -/
theorem seed_sound_onLine :
    let population : Population := ⟨(pointsOnLine [1.0, 6.0]).toArray, by decide, by decide⟩
    let store : PointStore ScriptState SplitMix :=
      Script.store { samples := some [[0], [0, 1], [0, 0]] } population
    let plan : SeedPlan := { k := 3 }
    let session : Session ScriptState SplitMix := { store := {}, random := {} }
    let seeding : Seeding := ⟨3, [⟨1, .onLine 1.0⟩, ⟨2, .onLine 6.0⟩]⟩
    ∃ rounds, plan.calls store session = rounds.flatMap SeedRound.calls ∧
      (plan.seed store).outcome session = .ok seeding ∧ plan.Sound store rounds seeding := by
  intro population store plan session seeding
  have hseeding : (plan.seed store).outcome session = .ok seeding := by decide +kernel
  obtain ⟨rounds, chosen, hcalls, -, -, -, hsound⟩ := plan.seed_sound store session
  exact ⟨rounds, hcalls, hseeding, (hsound seeding hseeding).2⟩

end SeedPlan

end SampledKmeans
