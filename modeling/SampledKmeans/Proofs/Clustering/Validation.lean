import SampledKmeans.Proofs.Clustering.Faults

/-!
# Which requests are refused

A clustering reports bad settings or a bad argument exactly when validation
refuses its request, and then it has read no point (`Clustering.fit_refuses_iff`).
The later stages check their arguments once more; none of these checks fails,
whatever the store answers.
-/

namespace SampledKmeans

open Procedure

/-- The failure blames the request: its settings or one of its arguments. -/
def Failure.IsRefusal : Failure → Prop
  | .error (.settings _) | .error (.invalidArgument _) => True
  | _ => False

theorem Failure.isRefusal_mapError_withCheckpoint {failure : Failure} {checkpoint : Checkpoint} :
    (failure.mapError (Error.withCheckpoint checkpoint)).IsRefusal ↔ failure.IsRefusal := by
  cases failure with
  | error error => cases error <;> exact Iff.rfl
  | _ => exact Iff.rfl

/-- Every defect of settings is reported as one. -/
theorem Settings.isRefusal_of_validate {settings : Settings} {error : Error}
    (h : settings.validate = .error error) : (Failure.error error).IsRefusal := by
  unfold validate at h
  split_ifs at h <;> (cases h; trivial)

variable {σ ρ : Type} {clustering : Clustering σ} {store : PointStore σ ρ}
  {limit : Option Duration} {session after : Session σ ρ} {failure : Failure}

namespace Clustering

/-- The settings cannot be used, no cluster is asked for, or there are points but
no more than clusters. -/
def IsRefused (clustering : Clustering σ) (store : PointStore σ ρ) (session : Session σ ρ) : Prop :=
  clustering.settings.validate ≠ .ok () ∨ clustering.k = 0 ∨
    ∃ population, (store.count session.store).1.IsFine "count" clustering.settings.timeout ∧
      (store.count session.store).1.outcome = .ok population ∧
      population ≠ 0 ∧ population ≤ clustering.k

/-! ## Validation -/

theorem valid_of_validate {population : Nat}
    (h : (clustering.validate store).Answers session population after) :
    clustering.settings.validate = .ok () ∧ clustering.k ≠ 0 := by
  rw [validate_eq] at h
  obtain ⟨_, _, hrequest, -⟩ := answers_bind_iff.mp h
  exact checkRequest_eq_ok_iff.mp (answers_check_iff.mp hrequest).1

theorem exists_error_of_checkRequest
    (h : ¬ (clustering.settings.validate = .ok () ∧ clustering.k ≠ 0)) :
    ∃ error, clustering.checkRequest = .error error := by
  cases hchecked : clustering.checkRequest with
  | error error => exact ⟨error, rfl⟩
  | ok _ => exact absurd (checkRequest_eq_ok_iff.mp hchecked) h

theorem isRefusal_of_checkRequest {error : Error} (h : clustering.checkRequest = .error error) :
    (Failure.error error).IsRefusal := by
  unfold checkRequest at h
  cases hsettings : clustering.settings.validate with
  | error cause =>
      rw [hsettings] at h
      exact Except.error.inj h ▸ Settings.isRefusal_of_validate hsettings
  | ok _ =>
      rw [hsettings] at h
      change (if clustering.k = 0 then _ else _) = _ at h
      split_ifs at h
      exact Except.error.inj h ▸ trivial

theorem checkPopulation_isRefusal_iff {population : Nat} :
    (∃ error, clustering.checkPopulation population = .error error ∧
        (Failure.error error).IsRefusal) ↔ population ≠ 0 ∧ population ≤ clustering.k := by
  unfold checkPopulation
  split_ifs with hzero hle
  · simp [hzero, Failure.IsRefusal]
  · simp [hzero, hle, Failure.IsRefusal]
  · simp [hle]

/-- The calls of validation: one count, if the request gets that far. -/
theorem records_validate :
    (clustering.recorded.validate (store.recorded.timed limit)).Records
      (clustering.validate (store.timed limit)) session
      (if clustering.settings.validate = .ok () ∧ clustering.k ≠ 0 then
        [.count (store.count session.store).1]
      else []) := by
  have hrequest : Records _ (check clustering.checkRequest) session [] := quiet_check _ session
  rw [validate_eq, validate_eq]
  split_ifs with hvalid
  · have hok : clustering.checkRequest = .ok () := checkRequest_eq_ok_iff.mpr hvalid
    exact hrequest.bind_of_answers (answers_check_iff.mpr ⟨hok, rfl⟩)
      ((store.records_askCount limit session).bind_quiet fun _ => quiet_check _)
  · obtain ⟨error, hchecked⟩ := exists_error_of_checkRequest hvalid
    exact hrequest.bind_of_fails (fails_check_iff.mpr ⟨error, hchecked, rfl, rfl⟩)

/-- Where validation blames the request, it is to be refused. -/
theorem isRefused_of_fails_validate
    (h : (clustering.validate (store.timed clustering.settings.timeout)).Fails session failure
      after) (hrefusal : failure.IsRefusal) : clustering.IsRefused store session := by
  rw [validate_eq] at h
  rcases fails_bind_iff.mp h with hrequest | ⟨_, _, hrequest, hrest⟩
  · obtain ⟨error, hchecked, -⟩ := fails_check_iff.mp hrequest
    by_cases hsettings : clustering.settings.validate = .ok ()
    · refine .inr (.inl (not_not.mp fun hk => ?_))
      have hok : clustering.checkRequest = .ok () := checkRequest_eq_ok_iff.mpr ⟨hsettings, hk⟩
      rw [hchecked] at hok
      cases hok
    · exact .inl hsettings
  obtain ⟨-, rfl⟩ := answers_check_iff.mp hrequest
  rcases fails_bind_iff.mp hrest with hcount | ⟨population, _, hcount, hpopulation⟩
  · -- A count that fails is the store's fault, and no refusal.
    obtain ⟨error, hreply, rfl, -⟩ := fails_call_iff.mp hcount
    obtain ⟨_, _, _, rfl⟩ := Reply.exists_unavailable_of_guarded hreply
    exact hrefusal.elim
  · have hguarded := (answers_call_iff.mp hcount).1
    obtain ⟨error, hchecked, rfl, -⟩ := fails_check_iff.mp hpopulation
    exact .inr (.inr ⟨population, Reply.isFine_of_outcome_guarded hguarded,
      Reply.outcome_of_guarded hguarded,
      checkPopulation_isRefusal_iff.mp ⟨error, hchecked, hrefusal⟩⟩)

/-- Where a request is to be refused, validation blames it. -/
theorem exists_fails_validate_of_isRefused (h : clustering.IsRefused store session) :
    ∃ failure after, (clustering.validate (store.timed clustering.settings.timeout)).Fails session
      failure after ∧ failure.IsRefusal := by
  cases hchecked : clustering.checkRequest with
  | error error =>
      rw [validate_eq]
      exact ⟨_, session, fails_bind_iff.mpr (.inl (fails_check_iff.mpr
        ⟨error, hchecked, rfl, rfl⟩)), isRefusal_of_checkRequest hchecked⟩
  | ok u =>
      obtain ⟨hvalid, hk⟩ := checkRequest_eq_ok_iff.mp hchecked
      rcases h with hsettings | hzero | ⟨population, hfine, hcount, hsmall⟩
      · exact absurd hvalid hsettings
      · exact absurd hzero hk
      obtain ⟨_, hcount', hguarded⟩ := hfine.exists_answer
      obtain rfl := Except.ok.inj (hcount.symm.trans hcount')
      obtain ⟨error, hpopulation, hrefusal⟩ := checkPopulation_isRefusal_iff.mpr hsmall
      exact ⟨.error error, _, (runIn_validate hchecked hguarded).trans
        (fails_check_iff.mpr ⟨error, hpopulation, rfl, rfl⟩), hrefusal⟩

/-! ## The whole clustering -/

variable [RandomSource ρ]

/-- Bad settings or a bad argument are reported exactly when the request is to be
refused, and then no point was read: there was no call, or one count if the
settings can be used and a cluster is asked for. -/
theorem fit_refuses_iff (clustering : Clustering σ) (store : PointStore σ ρ)
    (session : Session σ ρ) :
    ((∃ failure, (clustering.fit store).outcome session = .error failure ∧ failure.IsRefusal) ↔
      clustering.IsRefused store session) ∧
    (clustering.IsRefused store session → clustering.calls store session =
      if clustering.settings.validate = .ok () ∧ clustering.k ≠ 0 then
        [.count (store.count session.store).1]
      else []) := by
  have hserves : (store.timed clustering.settings.timeout).Serves (fun _ => True)
      fun failure => ¬ failure.IsRefusal :=
    PointStore.AnswersWithin.serves_timed ⟨by simp, by simp, by simp⟩ _ (fun _ _ _ _ _ => id)
      (fun _ _ _ => id) id fun _ _ h => mt Failure.isRefusal_mapError_withCheckpoint.mp h
  refine ⟨⟨?_, fun h => ?_⟩, fun h => ?_⟩
  · rintro ⟨failure, houtcome, hrefusal⟩
    rw [fit, fitUntimed_eq] at houtcome
    obtain ⟨after, hfails⟩ := outcome_eq_error_iff.mp houtcome
    rcases fails_bind_iff.mp hfails with hvalidates | ⟨population, between, hvalidates, hrest⟩
    · exact isRefused_of_fails_validate hvalidates hrefusal
    · -- Past validation the store is left, and none of its failures blames the request.
      obtain ⟨hsettings, hk⟩ := valid_of_validate hvalidates
      exact absurd hrefusal ((ensures_proceed hserves hsettings hk (fun _ => id)
        (fun _ _ _ _ => id) population).failure hrest)
  · obtain ⟨failure, after, hvalidates, hrefusal⟩ := exists_fails_validate_of_isRefused h
    have hfails : (clustering.fit store).Fails session failure after := by
      rw [fit, fitUntimed_eq]
      exact fails_bind_iff.mpr (.inl hvalidates)
    exact ⟨failure, hfails.outcome_eq, hrefusal⟩
  · obtain ⟨failure, after, hvalidates, -⟩ := exists_fails_validate_of_isRefused h
    refine calls_eq_of_records ?_
    rw [fit, fit, fitUntimed_eq, fitUntimed_eq]
    exact records_validate.bind_of_fails hvalidates

/-- Three points are too few for three clusters. -/
theorem fit_refuses_onLine :
    let population : Population := ⟨(pointsOnLine [1.0, 2.0, 6.0]).toArray, by decide, by decide⟩
    let store : PointStore Unit SplitMix := population.store
    let clustering : Clustering Unit := { k := 3 }
    let session : Session Unit SplitMix := { store := (), random := {} }
    clustering.IsRefused store session ∧
      (∃ failure, (clustering.fit store).outcome session = .error failure ∧ failure.IsRefusal) ∧
      clustering.calls store session = [.count (.ok 3)] := by
  intro population store clustering session
  have hrefused : clustering.IsRefused store session :=
    .inr (.inr ⟨3, Reply.isFine_of_outcome rfl, rfl, by decide, by decide⟩)
  have hvalid : clustering.settings.validate = .ok () ∧ clustering.k ≠ 0 :=
    ⟨by decide +kernel, by decide⟩
  obtain ⟨hiff, hcalls⟩ := fit_refuses_iff clustering store session
  rw [if_pos hvalid] at hcalls
  exact ⟨hrefused, hiff.mpr hrefused, hcalls hrefused⟩

end Clustering

end SampledKmeans
