import SampledKmeans.Proofs.Clustering.Endings
import SampledKmeans.Proofs.Random.Subset
import SampledKmeans.Proofs.Refinement.Overlap
import SampledKmeans.Proofs.Store.Population

/-!
# Clustering points in memory

No call of a population fails, and distances between balanced vectors are defined,
so that a clustering of such points has but one way to fail: a shortfall that the
settings do not allow (`Clustering.fit_inMemory`).  There is room for all centroids,
since there is room for the points and these are more.

The means of a population have no part in its state, so that it makes no difference
which of them overlap (`Clustering.fitWith_eq_fit_inMemory`).
-/

namespace SampledKmeans

open Procedure

variable {σ ρ : Type} [Sampler ρ]

/-! ## Calls without a time limit -/

namespace Population

variable {population : Population}

theorem ensures_drawSample [LawfulSampler ρ] (hpos : 0 < population.size) {n : Nat} (hn : 0 < n)
    {E : Failure → Prop} :
    Ensures E (((population.store : PointStore σ ρ).timed none).drawSample n) fun points =>
      points ≠ [] ∧ ∀ p ∈ points, p ∈ population.points.toList := by
  refine ensures_callRandom (fun source _ points hok => ?_) fun _ _ error herror => ?_
  · obtain rfl : (population.sample n source).1 = points := Except.ok.inj hok
    refine ⟨fun hnil => ?_, fun p hp => mem_of_mem_pointsAt hp⟩
    have hlength : (population.sample n source).1.length = min n population.size :=
      population.length_sample n source
    rw [hnil, List.length_nil] at hlength
    omega
  · cases herror

theorem ensures_openScan {E : Failure → Prop} :
    Ensures E ((population.store : PointStore σ ρ).timed none).openScan fun items =>
      items = population.points.toList.map fun p => (Reply.ok p).guarded "scan" none := by
  refine ensures_call (fun _ items hok => ?_) fun _ error herror => ?_
  · have hfine : ∀ item ∈ population.points.toList.map Reply.ok, item.IsFine "scan" none := by
      intro _ hitem
      obtain ⟨p, -, rfl⟩ := List.mem_map.mp hitem
      exact Reply.isFine_of_outcome (a := p) rfl
    obtain ⟨_, hopened, rfl⟩ := PointStore.timed_scan_eq_ok_iff.mp hok
    obtain rfl := Except.ok.inj hopened
    rw [Reply.untilFailure_of_fine hfine, List.map_map]
    rfl
  · cases PointStore.timed_scan_eq_error_iff.mp herror

theorem exists_meanOf {positions : List SparseVector} (hne : positions ≠ []) :
    ∃ mean, SparseVector.mean? positions = some mean ∧ meanOf positions = .ok mean := by
  obtain ⟨mean, hmean⟩ := SparseVector.exists_mean? hne
  exact ⟨mean, hmean, by rw [meanOf, hmean]⟩

theorem ensures_askMean {positions : List SparseVector} (hne : positions ≠ [])
    {E : Failure → Prop} :
    Ensures E (((population.store : PointStore σ ρ).timed none).askMean positions)
      SparseVector.Balanced := by
  obtain ⟨mean, hmean, hreply⟩ := exists_meanOf hne
  refine ensures_call (fun _ v hok => ?_) fun _ error herror => ?_
  · have hv : meanOf positions = .ok v := Reply.outcome_of_guardedMean hok
    obtain rfl := Except.ok.inj (hreply.symm.trans hv)
    exact SparseVector.balanced_of_mean? hmean
  · rcases Reply.outcome_guardedMean_eq_error_iff.mp herror with ⟨hempty, -⟩ | ⟨-, hfault⟩
    · cases hreply.symm.trans hempty
    · exact absurd hfault (Reply.isFine_of_outcome hreply error)

/-- Without a time limit every call is answered, and distances are defined. -/
theorem serves [LawfulSampler ρ] (hbalanced : ∀ p ∈ population.points.toList, p.position.Balanced)
    (hpos : 0 < population.size) {E : Failure → Prop}
    (hcheckpoint : ∀ checkpoint failure, E failure →
      E (failure.mapError (Error.withCheckpoint checkpoint))) :
    ((population.store : PointStore σ ρ).timed none).Serves SparseVector.Balanced E where
  sample n hn := (ensures_drawSample hpos hn).imp fun points hpoints =>
    ⟨fun p hp => hbalanced p (hpoints.2 p hp), fun hnil => absurd hnil hpoints.1⟩
  scan := by
    refine ensures_openScan.imp fun items hitems => ⟨fun item hitem => ?_, fun hnil => ?_⟩
    · obtain ⟨p, hp, rfl⟩ := List.mem_map.mp (hitems ▸ hitem)
      exact hbalanced p hp
    · rw [hitems, List.map_eq_nil_iff, ← List.length_eq_zero_iff, Array.length_toList] at hnil
      exact absurd hnil (Nat.ne_of_gt hpos)
  mean positions hne _ := ensures_askMean hne
  metric a b ha hb hnone := by
    obtain ⟨d, hd⟩ := ha.exists_distance? hb
    cases hd.symm.trans hnone
  checkpoint := hcheckpoint

/-! ## Means under a time limit -/

/-- The mean of some positions, which takes the time that every call takes. -/
def meanWithin (limit : Option Duration) (positions : List SparseVector) :
    Except Failure SparseVector :=
  (Reply.guardedMean limit { outcome := meanOf positions }).outcome.mapError Failure.error

theorem events_guardedMean (limit : Option Duration) (outcome : Except Error SparseVector) :
    (Reply.guardedMean limit { outcome }).events = [] := by
  unfold Reply.guardedMean
  split <;> rfl

theorem runIn_askMean (limit : Option Duration) (positions : List SparseVector)
    (session : Session σ ρ) :
    (((population.store : PointStore σ ρ).timed limit).askMean positions).runIn session =
      (meanWithin limit positions, session) := by
  rw [PointStore.askMean, runIn_call]
  simp [afterCall, PointStore.timed, store, events_guardedMean, meanWithin]

/-- A mean can only be late, and then all of them are. -/
theorem eq_overrun_of_meanWithin {limit : Option Duration} {positions : List SparseVector}
    (hne : positions ≠ []) {failure : Failure} (h : meanWithin limit positions = .error failure) :
    failure = .error (Reply.overrun "mean" (limit.getD ⟨0⟩)) := by
  obtain ⟨mean, -, hreply⟩ := exists_meanOf hne
  cases houtcome : (Reply.guardedMean limit { outcome := meanOf positions }).outcome with
  | ok v =>
      rw [meanWithin, houtcome] at h
      cases h
  | error error =>
      rw [meanWithin, houtcome] at h
      obtain rfl := Except.error.inj h
      rcases Reply.outcome_guardedMean_eq_error_iff.mp houtcome with ⟨hempty, -⟩ | ⟨-, hfault⟩
      · cases hreply.symm.trans hempty
      · cases hfault with
        | unavailable error => cases hreply.symm.trans error
        | failed error _ => cases hreply.symm.trans error
        | late _ limited _ => rw [limited]; rfl

theorem settlesMeans (population : Population) (limit : Option Duration) :
    ((population.store : PointStore σ ρ).timed limit).SettlesMeans (meanWithin limit)
      (.error (Reply.overrun "mean" (limit.getD ⟨0⟩))) where
  askMean_eq positions := by
    funext session
    refine (runIn_askMean limit positions session).trans ?_
    cases meanWithin limit positions <;> rfl
  alike _ hne _ := eq_overrun_of_meanWithin hne

end Population

/-! ## Clusterings of populations -/

namespace Clustering

theorem answers_validate_population {clustering : Clustering σ} {population : Population}
    (session : Session σ ρ) (hvalid : clustering.settings.validate = .ok ())
    (hpos : 0 < clustering.k) (hlt : clustering.k < population.size) :
    ∃ after, (clustering.validate ((population.store : PointStore σ ρ).timed none)).Answers session
      population.size after := by
  have hrequest : clustering.checkRequest = .ok () :=
    checkRequest_eq_ok_iff.mpr ⟨hvalid, Nat.ne_of_gt hpos⟩
  have hpopulation : clustering.checkPopulation population.size = .ok population.size := by
    rw [checkPopulation, if_neg (by omega), if_neg (by omega)]
  exact ⟨_, (runIn_validate hrequest rfl).trans (answers_check_iff.mpr ⟨hpopulation, rfl⟩)⟩

/-- A clustering of points in memory, without a time limit and with fewer clusters
than points: for all settings that can be used, every random source and sampler, and whenever
the caller asks to stop, it answers, or seeding falls short and the settings do not
allow that. -/
theorem fit_inMemory [RandomSource ρ] [LawfulSampler ρ] (clustering : Clustering σ)
    (population : Population) (session : Session σ ρ)
    (hbalanced : ∀ p ∈ population.points.toList, p.position.Balanced)
    (hvalid : clustering.settings.validate = .ok ())
    (hlimit : clustering.settings.timeoutMs = none)
    (hpos : 0 < clustering.k) (hlt : clustering.k < population.size) :
    (∃ clustered, (clustering.fit population.store).outcome session = .ok clustered) ∨
      clustering.settings.allowShortfall = false ∧ ∃ m, 1 ≤ m ∧ m < clustering.k ∧
        (clustering.fit population.store).outcome session =
          .error (.error (.seedingShortfall clustering.k m)) := by
  let IsShortfall : Failure → Prop := fun failure =>
    clustering.settings.allowShortfall = false ∧ ∃ m, 1 ≤ m ∧ m < clustering.k ∧
      failure = .error (.seedingShortfall clustering.k m)
  have hserves : ((population.store : PointStore σ ρ).timed none).Serves
      SparseVector.Balanced IsShortfall := by
    refine Population.serves hbalanced (Nat.lt_trans hpos hlt) ?_
    rintro checkpoint _ ⟨hallow, m, hm, hmk, rfl⟩
    exact ⟨hallow, m, hm, hmk, rfl⟩
  -- The points fit into memory, and these are more than the centroids.
  have hroom : maxRows < clustering.k → IsShortfall .outOfMemory := fun hrows =>
    absurd (Nat.lt_trans hrows hlt) (Nat.not_lt.mpr population.fits)
  have hproceed := ensures_proceed hserves hvalid (Nat.ne_of_gt hpos) hroom
    (fun hallow m hm hmk => ⟨hallow, m, hm, hmk, rfl⟩) population.size
  have htimeout : clustering.settings.timeout = none := by
    rw [Settings.timeout, hlimit, Option.map_none]
  obtain ⟨validated, hvalidates⟩ :=
    answers_validate_population session hvalid hpos hlt
  have hfit : (clustering.fit population.store).outcome session =
      (clustering.proceed ((population.store : PointStore σ ρ).timed none) population.size).outcome
        validated := by
    rw [fit, fitUntimed_eq, htimeout, outcome, runIn_bind, hvalidates.runIn_eq]
    rfl
  -- What is left of the failures is the shortfall.
  rw [hfit]
  rcases answers_or_fails (clustering.proceed ((population.store : PointStore σ ρ).timed none)
    population.size) validated with ⟨clustered, _, hanswers⟩ | ⟨failure, _, hfails⟩
  · exact .inl ⟨clustered, hanswers.outcome_eq⟩
  · obtain ⟨hallow, m, hm, hmk, rfl⟩ := hproceed.failure hfails
    exact .inr ⟨hallow, m, hm, hmk, hfails.outcome_eq⟩

/-- Two clusters of three points, two of which coincide. -/
theorem fit_inMemory_onLine :
    let population : Population := ⟨(pointsOnLine [1.0, 1.0, 6.0]).toArray, by decide, by decide⟩
    let clustering : Clustering Unit := { k := 2 }
    let session : Session Unit SplitMix := { store := (), random := {} }
    (∀ p ∈ population.points.toList, p.position.Balanced) ∧
      clustering.settings.validate = .ok () ∧ clustering.k < population.size ∧
      ((∃ clustered, (clustering.fit population.store).outcome session = .ok clustered) ∨
        clustering.settings.allowShortfall = false ∧ ∃ m, 1 ≤ m ∧ m < clustering.k ∧
          (clustering.fit population.store).outcome session =
            .error (.error (.seedingShortfall clustering.k m))) := by
  intro population clustering session
  have hbalanced : ∀ p ∈ population.points.toList, p.position.Balanced := by decide
  have hvalid : clustering.settings.validate = .ok () := by decide +kernel
  have hlt : clustering.k < population.size := by decide
  exact ⟨hbalanced, hvalid, hlt,
    fit_inMemory clustering population session hbalanced hvalid rfl (by decide) hlt⟩

/-- A clustering of points in memory is the same whichever of its means overlap: in its
outcome, and in the session that it leaves behind. -/
theorem fitWith_eq_fit_inMemory [RandomSource ρ] (clustering : Clustering σ)
    (population : Population) (overlaps : Overlaps) :
    clustering.fitWith (population.store : PointStore σ ρ) overlaps =
      clustering.fit population.store := by
  have hsettles : ((population.store : PointStore σ ρ).timed
      clustering.settings.timeout).SettlesMeans _ _ :=
    population.settlesMeans clustering.settings.timeout
  unfold fit fitWith fitUntimed fitUntimedWith
  simp only [Limits.refineWith_eq_refine hsettles]

end Clustering

end SampledKmeans
