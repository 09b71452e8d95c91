import SampledKmeans.Proofs.Clustering.Endings
import SampledKmeans.Proofs.Refinement.Faults
import SampledKmeans.Proofs.Store.Reading

/-!
# Faults during a clustering

The calls of a clustering are one count, samples and scans for seeding and the
working set, means for refinement, and one more scan for an expansion
(`Clustering.callsWith`).  Every stage tracks the faults of its calls, so that nothing
follows a faulty call but means that overlap with it, and nothing at all where means are
asked for one after another (`Clustering.exists_earlier_of_fault`).

What the failure shows depends on the stage (`Clustering.Shows`).  Before
refinement there is no checkpoint but the one that the error came with;
refinement adds the state in which the failing iteration began, and an expansion
the final state of the refinement (`Clustering.fit_shows_fault`).
-/

namespace SampledKmeans

open Procedure

variable {σ ρ α : Type} {store : PointStore σ ρ} {overlaps : Overlaps}
  {limit : Option Duration} {overlapping : Prop} {centroids : List Centroid} {session : Session σ ρ}

/-! ## The stages -/

/-- A call that loads points: of seeding or of the working set. -/
def Call.Loads (metric : SparseVector → SparseVector → Option Float) (limit : Option Duration)
    (call : Call) (failure : Failure) : Prop :=
  call.operation ≠ "mean" ∧ call.Surfaces metric limit id failure

theorem PointStore.tracks_loadSample (n : Nat) :
    Tracks limit overlapping (Call.Loads store.metric limit)
      ((store.recorded.timed limit).drawSample n) ((store.timed limit).drawSample n) session :=
  tracks_drawSample (fun call => call.operation ≠ "mean")
    (fun _ _ => show "sample" ≠ "mean" by decide) n

theorem PointStore.tracks_loadScan {read' : List (Reply Point) → Procedure (Recorded σ) ρ α}
    {read : List (Reply Point) → Procedure σ ρ α}
    (hquiet : ∀ items, (read' items).Quiet (read items)) (hreads : store.Reads read) :
    Tracks limit overlapping (Call.Loads store.metric limit)
      ((store.recorded.timed limit).openScan >>= read') ((store.timed limit).openScan >>= read)
      session :=
  tracks_openScan (fun call => call.operation ≠ "mean")
    (fun _ => show "scan" ≠ "mean" by decide) hquiet hreads

namespace SeedPlan

variable {plan : SeedPlan}

theorem tracks_farthest? :
    Tracks limit overlapping (Call.Loads store.metric limit)
      (farthest? (store.recorded.timed limit) centroids) (farthest? (store.timed limit) centroids)
      session := by
  unfold farthest?
  refine PointStore.tracks_loadScan (fun items => Quiet.bind (Quiet.mapM (fun item => ?_) items)
    fun measured => quiet_pure (pickFarthest? measured)) (PointStore.Reads.bind
      (PointStore.reads_mapM fun point => ?_) _)
  · refine (quiet_check item.outcome).bind fun point => ?_
    exact (store.quiet_minDistance limit point.position centroids).bind
      fun distance => quiet_pure (point, distance)
  · refine (PointStore.ensures_minDistance fun c _ hnone => ?_).bind fun _ _ => ensures_pure trivial
    exact ⟨rfl, point, List.mem_singleton_self point, c.position, hnone⟩

variable [RandomSource ρ]

theorem tracks_next? (pool : Nat) :
    Tracks limit overlapping (Call.Loads store.metric limit)
      (plan.next? (store.recorded.timed limit) pool centroids)
      (plan.next? (store.timed limit) pool centroids) session := by
  rw [next?_eq, next?_eq]
  refine (PointStore.tracks_loadSample pool).bind fun points _ _ => ?_
  refine .bind (.of_quiet (Quiet.mapM (fun point => ?_) points)) fun candidates between _ => ?_
  · refine (quiet_draw RandomSource.unit).bind fun draw => ?_
    exact (store.quiet_minDistance limit point.position centroids).bind
      fun distance => quiet_pure (⟨point, distance, draw⟩ : Candidate)
  · cases pickWeighted? plan.exponent candidates with
    | some point => exact .of_quiet (quiet_pure (some point))
    | none => exact tracks_farthest?

theorem tracks_grow (pool remaining : Nat) :
    Tracks limit overlapping (Call.Loads store.metric limit)
      (plan.grow (store.recorded.timed limit) pool remaining centroids)
      (plan.grow (store.timed limit) pool remaining centroids) session := by
  induction remaining generalizing centroids session with
  | zero => exact .of_quiet (quiet_pure centroids)
  | succ remaining ih =>
      rw [grow, grow]
      refine (tracks_next? pool).bind fun chosen _ _ => ?_
      cases chosen with
      | some point => exact ih
      | none => exact .of_quiet ((quiet_report _).bind fun _ => quiet_pure centroids)

theorem tracks_seed :
    Tracks limit overlapping (Call.Loads store.metric limit)
      (plan.seed (store.recorded.timed limit)) (plan.seed (store.timed limit)) session := by
  unfold seed
  refine .bind (.of_quiet (quiet_check _)) fun pool _ _ => ?_
  refine (PointStore.tracks_loadSample 1).bind fun points _ _ => ?_
  cases points with
  | nil => exact .of_quiet (quiet_fail .emptyInput)
  | cons first _ =>
      refine .bind (.of_quiet (quiet_reserve plan.k)) fun _ _ _ => ?_
      exact (tracks_grow _ _).bind fun centroids _ _ => .of_quiet (quiet_pure _)

end SeedPlan

namespace PointStore

theorem tracks_expand (withFit : Bool) :
    Tracks limit overlapping
      (fun call failure => call.operation = "scan" ∧ call.Surfaces store.metric limit id failure)
      ((store.recorded.timed limit).expand withFit centroids)
      ((store.timed limit).expand withFit centroids) session := by
  unfold expand
  by_cases hempty : centroids.isEmpty
  · rw [if_pos hempty, if_pos hempty]
    exact .of_quiet (quiet_fail _)
  · rw [if_neg hempty, if_neg hempty]
    refine tracks_openScan (fun call => call.operation = "scan") (fun _ => rfl) (fun items => ?_)
      ((Expansion.reads_readBlocks {}).bind _)
    exact (Expansion.quiet_readBlocks store limit centroids items [] blockSize {}).bind
      fun result => quiet_pure _

theorem quiet_goodnessOfFit (assigned : List (SparseVector × Nat)) :
    ((store.recorded.timed limit).goodnessOfFit assigned centroids).Quiet
      ((store.timed limit).goodnessOfFit assigned centroids) :=
  quiet_iff_lifts.mpr fun _ =>
    lifts_goodnessOfFit (store.metric_recorded_timed limit) assigned centroids

end PointStore

namespace Clustering

variable {clustering : Clustering σ}

theorem tracks_validate :
    Tracks limit overlapping (Call.Loads store.metric limit)
      (clustering.recorded.validate (store.recorded.timed limit))
      (clustering.validate (store.timed limit)) session := by
  rw [validate_eq, validate_eq]
  refine .bind (.of_quiet (quiet_check clustering.checkRequest)) fun _ _ _ => ?_
  refine .bind (PointStore.tracks_askCount (fun call => call.operation ≠ "mean")
    fun _ => show "count" ≠ "mean" by decide) fun population _ _ => .of_quiet ?_
  exact quiet_check (clustering.checkPopulation population)

theorem quiet_accept (seeding : Seeding) :
    (clustering.recorded.accept seeding : Procedure (Recorded σ) ρ Unit).Quiet
      (clustering.accept seeding) := by
  unfold accept
  change Quiet
    (if seeding.isShort then (if !clustering.settings.allowShortfall then _ else _) else _) _
  split_ifs
  · exact (quiet_check seeding.ensureComplete).bind fun _ => quiet_report _
  · exact quiet_report _
  · exact quiet_pure ()

theorem tracks_workingSet (population : Nat) :
    Tracks limit overlapping (Call.Loads store.metric limit)
      (clustering.recorded.workingSet (store.recorded.timed limit) population)
      (clustering.workingSet (store.timed limit) population) session := by
  have hscan : ∀ session, Tracks limit overlapping (Call.Loads store.metric limit)
      (store.recorded.timed limit).scanAll (store.timed limit).scanAll session := fun _ =>
    PointStore.tracks_loadScan (fun items => quiet_check _) PointStore.reads_collect
  unfold workingSet
  refine .bind (.of_quiet (quiet_check clustering.sampleSize)) fun size _ _ => ?_
  change Tracks limit overlapping _
    (if clustering.settings.sampling && size < population then _ else _)
    (if clustering.settings.sampling && size < population then _ else _) _
  split_ifs
  · refine .bind (.of_quiet (quiet_report _)) fun _ _ _ => ?_
    exact (PointStore.tracks_loadSample size).bind fun points _ _ =>
      .of_quiet (quiet_pure (points, true))
  · refine .bind (.of_quiet (quiet_report _)) fun _ _ _ => ?_
    exact (hscan _).bind fun points _ _ => .of_quiet (quiet_pure (points, false))

theorem tracks_expandSample (refinement : Refinement) :
    Tracks limit overlapping (fun call failure => call.operation = "scan" ∧
        call.Surfaces store.metric limit (Error.withCheckpoint refinement.checkpoint) failure)
      (clustering.recorded.expandSample (store.recorded.timed limit) refinement)
      (clustering.expandSample (store.timed limit) refinement) session := by
  unfold expandSample
  refine .bind (.of_quiet (quiet_report _)) fun _ _ _ => ?_
  exact .bind (.checkpointed (PointStore.tracks_expand clustering.withFit)) fun expansion _ _ =>
    .of_quiet (quiet_pure _)

theorem quiet_labelAll (working : List Point) (refinement : Refinement) :
    (clustering.recorded.labelAll (store.recorded.timed limit) working refinement).Quiet
      (clustering.labelAll (store.timed limit) working refinement) := by
  unfold labelAll
  change Quiet (if clustering.withFit then _ else _) (if clustering.withFit then _ else _)
  split_ifs
  · exact (PointStore.quiet_goodnessOfFit _).bind fun fit => quiet_pure _
  · exact quiet_pure _

theorem quiet_conclude (population : Nat) (loaded : List Point × Bool) (refinement : Refinement)
    (assigned : List Assignment × Option Float) :
    (clustering.recorded.conclude population loaded refinement assigned :
      Procedure (Recorded σ) ρ Clustered).Quiet
      (clustering.conclude population loaded refinement assigned) := by
  obtain ⟨assignments, _ | fit⟩ := assigned
  · exact quiet_pure _
  · exact (quiet_report _).bind fun _ => quiet_pure _

variable [RandomSource ρ]

/-- What a clustering refines is what it has prepared. -/
theorem fitUntimedWith_eq_prepare (overlaps : Overlaps) :
    clustering.fitUntimedWith store overlaps = (do
      let prepared ← clustering.prepare store
      let refinement ← clustering.refinePreparedWith store overlaps prepared
      let assigned ← clustering.assignAll store (prepared.working, prepared.sampled) refinement
      clustering.conclude prepared.population (prepared.working, prepared.sampled) refinement
        assigned) := by
  rw [fitUntimedWith_eq]
  simp only [prepare, proceedWith, refinePreparedWith, bind_assoc, pure_bind]

theorem tracks_prepare :
    Tracks limit overlapping (Call.Loads store.metric limit)
      (clustering.recorded.prepare (store.recorded.timed limit))
      (clustering.prepare (store.timed limit)) session := by
  unfold prepare
  refine tracks_validate.bind fun population _ _ => ?_
  refine .bind (.bind (.of_quiet (quiet_report _)) fun _ _ _ => SeedPlan.tracks_seed)
    fun seeding _ _ => ?_
  refine .bind (.of_quiet (quiet_accept seeding)) fun _ _ _ => ?_
  exact (tracks_workingSet population).bind fun loaded _ _ => .of_quiet (quiet_pure _)

/-! ## What a faulty call shows -/

/-- The checkpoint with which the fault of a call is reported: none of its own
before refinement, the state before the failing iteration during refinement, and
the final state after that. -/
inductive Shows (clustering : Clustering σ) (store : PointStore σ ρ) (overlaps : Overlaps)
    (session : Session σ ρ) : Call → Failure → Option Checkpoint → Prop where
  | loading {call : Call} {failure : Failure} {after : Session σ ρ}
      (fails : (clustering.prepare store).Fails session failure after)
      (kind : call.operation ≠ "mean") : Shows clustering store overlaps session call failure none
  | refining {call : Call} {failure : Failure} {prepared : Prepared} {between : Session σ ρ}
      {last : Progress} (prepares : (clustering.prepare store).Answers session prepared between)
      (fails : clustering.limits.FailsIn store overlaps clustering.stop prepared.working
        prepared.seeding.centroids between last failure)
      (kind : call.operation = "mean") :
      Shows clustering store overlaps session call failure (some last.checkpoint)
  | expanding {call : Call} {failure : Failure} {prepared : Prepared}
      {between after : Session σ ρ} {refinement : Refinement}
      (prepares : (clustering.prepare store).Answers session prepared between)
      (refines : (clustering.refinePreparedWith store overlaps prepared).Answers between
        refinement after)
      (sampled : prepared.sampled = true) (kind : call.operation = "scan") :
      Shows clustering store overlaps session call failure (some refinement.checkpoint)

/-- Attaches a checkpoint, if there is one. -/
def attach (shown : Option Checkpoint) : Error → Error :=
  match shown with
  | some checkpoint => Error.withCheckpoint checkpoint
  | none => id

theorem tracks_fitWith (clustering : Clustering σ) (store : PointStore σ ρ) (overlaps : Overlaps)
    (session : Session σ ρ) :
    Tracks clustering.settings.timeout overlaps.Parallel (fun call failure => ∃ shown,
        clustering.Shows (store.timed clustering.settings.timeout) overlaps session call failure
          shown ∧
        call.Surfaces store.metric clustering.settings.timeout (attach shown) failure)
      (clustering.recorded.fitWith store.recorded overlaps) (clustering.fitWith store overlaps)
      session := by
  unfold fitWith
  rw [fitUntimedWith_eq_prepare, fitUntimedWith_eq_prepare]
  refine (tracks_prepare.imp fun call failure after hfails ⟨hkind, hsurfaces⟩ =>
    ⟨none, .loading hfails hkind, hsurfaces⟩).bind fun prepared between hprepares => ?_
  refine (Limits.tracks_refineWith.imp
    fun call failure after _ ⟨hkind, last, hfails, hsurfaces⟩ =>
      ⟨some last.checkpoint, .refining hprepares hfails hkind, hsurfaces⟩).bind
        fun refinement refined hrefines => ?_
  refine .bind ?_ fun assigned _ _ => .of_quiet (quiet_conclude _ _ _ assigned)
  unfold assignAll
  dsimp only
  split_ifs with hsampled
  · exact (tracks_expandSample refinement).imp fun call failure after _ ⟨hkind, hsurfaces⟩ =>
      ⟨some refinement.checkpoint, .expanding hprepares hrefines hsampled hkind, hsurfaces⟩
  · exact .of_quiet (quiet_labelAll _ _)

/-- Recording the calls changes nothing else. -/
theorem outcome_fitWith_recorded :
    (clustering.recorded.fitWith store.recorded overlaps).outcome (session.recording []) =
      (clustering.fitWith store overlaps).outcome session := by
  obtain ⟨_, hrecords, -⟩ := tracks_fitWith clustering store overlaps session
  exact hrecords.outcome_eq []

theorem callsWith_eq_of_records {calls : List Call}
    (h : (clustering.recorded.fitWith store.recorded overlaps).Records
      (clustering.fitWith store overlaps) session calls) :
    clustering.callsWith store overlaps session = calls :=
  congrArg (fun ending => ending.2.store.calls) (h [])

/-- With a faulty call the calls break off, and the clustering fails with what the call
that is reported shows. -/
theorem exists_breakdown_of_fault {call : Call} {error : Error}
    (hcall : call ∈ clustering.callsWith store overlaps session)
    (hfault : call.Fault clustering.settings.timeout error) :
    ∃ (earlier : List Call) (breakdown : Breakdown clustering.settings.timeout overlaps.Parallel)
        (failure : Failure) (after : Session σ ρ) (shown : Option Checkpoint),
      clustering.callsWith store overlaps session = earlier ++ breakdown.calls ∧
      (∀ call ∈ earlier, call.IsFine clustering.settings.timeout) ∧
      call ∈ breakdown.calls ∧
      (clustering.fitWith store overlaps).Fails session failure after ∧
      clustering.Shows (store.timed clustering.settings.timeout) overlaps session
        breakdown.reported failure shown ∧
      breakdown.reported.Surfaces store.metric clustering.settings.timeout (attach shown)
        failure := by
  obtain ⟨calls, hrecords, hends⟩ := tracks_fitWith clustering store overlaps session
  rw [callsWith_eq_of_records hrecords] at hcall ⊢
  rcases hends with hfine | ⟨earlier, breakdown, failure, after, rfl, hearlier, hfails, shown,
    hshows, hsurfaces⟩
  · exact absurd hfault (hfine call hcall error)
  · have hmem : call ∈ breakdown.calls :=
      (List.mem_append.mp hcall).resolve_left fun hmem => hearlier call hmem error hfault
    exact ⟨earlier, breakdown, failure, after, shown, rfl, hearlier, hmem, hfails, hshows,
      hsurfaces⟩

/-! ### Without overlap -/

theorem callsWith_none :
    clustering.callsWith store .none session = clustering.calls store session :=
  rfl

theorem calls_eq_of_records {calls : List Call}
    (h : (clustering.recorded.fit store.recorded).Records (clustering.fit store) session calls) :
    clustering.calls store session = calls := by
  rw [← callsWith_none]
  exact callsWith_eq_of_records h

/-- Where no means overlap, a faulty call is the only one and the last. -/
theorem exists_earlier_of_fault {call : Call} {error : Error}
    (hcall : call ∈ clustering.calls store session)
    (hfault : call.Fault clustering.settings.timeout error) :
    ∃ earlier, clustering.calls store session = earlier ++ [call] ∧
      ∀ call ∈ earlier, call.IsFine clustering.settings.timeout := by
  rw [← callsWith_none] at hcall ⊢
  obtain ⟨earlier, breakdown, -, -, -, hcalls, hearlier, hmem, -⟩ :=
    exists_breakdown_of_fault hcall hfault
  have hlast : breakdown.calls = [call] :=
    (breakdown.calls_eq_singleton hmem (.inr Overlaps.not_parallel_none)).1
  exact ⟨earlier, hlast ▸ hcalls, hearlier⟩

/-! ### Checkpoints -/

theorem attach_unavailable (shown : Option Checkpoint) (name message : String)
    (attached : Option Checkpoint) :
    attach shown (.storageUnavailable name message attached) =
      .storageUnavailable name message (shown.or attached) := by
  cases shown <;> rfl

theorem attach_emptyInput (shown : Option Checkpoint) : attach shown .emptyInput = .emptyInput := by
  cases shown <;> rfl

/-- Preparation begins with seeding. -/
theorem exists_seeded_of_prepare {prepared : Prepared} {after : Session σ ρ}
    (h : (clustering.prepare store).Answers session prepared after) :
    ∃ seeded, (do
      let _ ← clustering.validate store
      clustering.seed store : Procedure σ ρ Seeding).Answers session prepared.seeding seeded := by
  obtain ⟨population, _, hvalidates, hrest⟩ := answers_bind_iff.mp h
  obtain ⟨seeding, seeded, hseeds, hrest⟩ := answers_bind_iff.mp hrest
  obtain ⟨_, _, -, hrest⟩ := answers_bind_iff.mp hrest
  obtain ⟨loaded, _, -, hpure⟩ := answers_bind_iff.mp hrest
  obtain ⟨rfl, -⟩ := answers_pure_iff.mp hpure
  exact ⟨seeded, answers_bind_iff.mpr ⟨population, _, hvalidates, hseeds⟩⟩

/-- The fault of a mean is reported with a checkpoint. -/
theorem Shows.exists_checkpoint {call : Call} {failure : Failure} {shown : Option Checkpoint}
    (h : clustering.Shows store overlaps session call failure shown)
    (hmean : call.operation = "mean") : ∃ checkpoint, shown = some checkpoint := by
  cases h with
  | loading _ kind => exact absurd hmean kind
  | refining => exact ⟨_, rfl⟩
  | expanding => exact ⟨_, rfl⟩

/-- A checkpoint of no iteration shows the seeds. -/
theorem Shows.eq_of_iteration_eq_zero {call : Call} {failure : Failure} {checkpoint : Checkpoint}
    (h : clustering.Shows store overlaps session call failure (some checkpoint))
    (hzero : checkpoint.iteration = 0) :
    ∃ seeding seeded, (do
        let _ ← clustering.validate store
        clustering.seed store : Procedure σ ρ Seeding).Answers session seeding seeded ∧
      checkpoint = ⟨0, seeding.centroids.map Centroid.position, []⟩ := by
  cases h with
  | refining prepares fails _ =>
      obtain ⟨_, _, hreaches, -, -⟩ := fails
      obtain ⟨seeded, hseeding⟩ := exists_seeded_of_prepare prepares
      refine ⟨_, seeded, hseeding, ?_⟩
      rw [hreaches.eq_start_of_iterations_eq_zero hzero]
      rfl
  | expanding prepares refines _ _ =>
      obtain ⟨last, _, -, hpos, rfl⟩ :=
        Limits.exists_sound_of_outcome_refine refines.outcome_eq
      exact absurd hzero (Nat.ne_of_gt hpos)

/-- After a faulty call a clustering calls the store for nothing but means of the same
iteration that overlap with it, and fails.  If several of those are faulty, one of them is
reported; a count, sample or scan is the last call, and so is any call where no means
overlap.

The clustering fails with the storage error of the call that is reported and a
checkpoint: before refinement the one that the error came with, if any; with a mean the
state before its iteration, which shows the seeds when that is the first one; and after
refinement its final state.  Only that there was nothing to average is reported as it is.

The record of a scan holds all of its items.  They are asked for one by one, so that a
faulty one does not show when a distance from a point before it is not defined: that item
is never asked for. -/
theorem fit_shows_fault {call : Call} {error : Error}
    (hcall : call ∈ clustering.callsWith store overlaps session)
    (hfault : call.Fault clustering.settings.timeout error) :
    ∃ (earlier : List Call) (breakdown : Breakdown clustering.settings.timeout overlaps.Parallel)
        (failure : Failure) (shown : Option Checkpoint),
      clustering.callsWith store overlaps session = earlier ++ breakdown.calls ∧
      (∀ call ∈ earlier, call.IsFine clustering.settings.timeout) ∧
      (call.operation ≠ "mean" ∨ ¬ overlaps.Parallel →
        breakdown.calls = [call] ∧ breakdown.reported = call) ∧
      (clustering.fitWith store overlaps).outcome session = .error failure ∧
      clustering.Shows (store.timed clustering.settings.timeout) overlaps session
        breakdown.reported failure shown ∧
      (∀ checkpoint, shown = some checkpoint → checkpoint.iteration = 0 →
        ∃ seeding, (clustering.seedCentroids store).outcome session = .ok seeding ∧
          checkpoint = ⟨0, seeding.centroids.map Centroid.position, []⟩) ∧
      ∀ error, breakdown.reported.Fault clustering.settings.timeout error →
        ((∀ name message attached, error = .storageUnavailable name message attached →
            failure = .error (.storageUnavailable name message (shown.or attached))) ∧
          (error = .emptyInput → failure = .error .emptyInput)) ∨
        failure = .outOfRange ∧
          breakdown.reported.EndsBefore store.metric clustering.settings.timeout := by
  obtain ⟨earlier, breakdown, failure, after, shown, hcalls, hearlier, hmem, hfails, hshows,
    hsurfaces⟩ := exists_breakdown_of_fault hcall hfault
  refine ⟨earlier, breakdown, failure, shown, hcalls, hearlier,
    breakdown.calls_eq_singleton hmem, hfails.outcome_eq, hshows, ?_, fun error hreported => ?_⟩
  · rintro checkpoint rfl hzero
    obtain ⟨seeding, seeded, hseeding, heq⟩ := hshows.eq_of_iteration_eq_zero hzero
    exact ⟨seeding, hseeding.outcome_eq, heq⟩
  · refine (hsurfaces error hreported).imp_left fun hfailure => ⟨?_, ?_⟩
    · rintro name message attached rfl
      rw [hfailure, attach_unavailable]
    · rintro rfl
      rw [hfailure, attach_emptyInput]

/-- In the second iteration both means fail.  The one that takes effect last is
reported. -/
theorem fit_shows_fault_onLine :
    let population : Population :=
      ⟨(pointsOnLine [1.0, 2.0, 9.0, 10.0]).toArray, by decide, by decide⟩
    let store : PointStore ScriptState SplitMix :=
      { Script.store { samples := some [[0], [3]] } population with
        mean := fun positions state =>
          let earlier := state.calls.mean
          ({ outcome :=
              if earlier < 2 then meanOf positions
              else .error (.other (if earlier = 2 then "connection reset" else "refused")) },
            { state with calls := { state.calls with mean := earlier + 1 } }) }
    let overlaps : Overlaps := fun _ => { ahead := [1, 0], reported := 1 }
    let clustering : Clustering ScriptState := { k := 2, settings := { sampling := false } }
    let session : Session ScriptState SplitMix := { store := {}, random := {} }
    let shown : Checkpoint := ⟨1, [.onLine 1.5, .onLine 9.5], []⟩
    ∃ (call : Call) (earlier : List Call) (breakdown : Breakdown none overlaps.Parallel)
        (failure : Failure),
      call ∈ clustering.callsWith store overlaps session ∧
      call.Fault none (.storageUnavailable "mean" "connection reset" none) ∧
      clustering.callsWith store overlaps session = earlier ++ breakdown.calls ∧
      (∀ call ∈ earlier, call.IsFine none) ∧
      clustering.Shows (store.timed none) overlaps session breakdown.reported failure
        (some shown) ∧
      (clustering.fitWith store overlaps).outcome session = .error failure ∧
      failure = .error (.storageUnavailable "mean" "refused" (some shown)) := by
  intro population store overlaps clustering session shown
  let reply : Reply SparseVector := { outcome := .error (.other "connection reset") }
  have hcall : .mean ([9.0, 10.0].map SparseVector.onLine) reply ∈
      clustering.callsWith store overlaps session := by
    decide +kernel
  have hfault : (Call.mean ([9.0, 10.0].map SparseVector.onLine) reply).Fault none
      (.storageUnavailable "mean" "connection reset" none) :=
    .mean (by simp [reply])
      (.failed (show reply.outcome = .error (.other "connection reset") from rfl) (by simp))
  have hfit : (clustering.fitWith store overlaps).outcome session =
      .error (.error (.storageUnavailable "mean" "refused" (some shown))) := by
    decide +kernel
  obtain ⟨earlier, breakdown, failure, shown', hcalls, hearlier, -, houtcome, hshows, -,
    hresult⟩ := fit_shows_fault hcall hfault
  obtain rfl := Except.error.inj (houtcome.symm.trans hfit)
  have hmean : breakdown.reported.operation = "mean" :=
    breakdown.reported_mean (List.mem_append.mp (hcalls ▸ hcall) |>.resolve_left
      fun hmem => hearlier _ hmem _ hfault) rfl
  obtain ⟨error, herror⟩ := not_forall_not.mp breakdown.reported_faulty
  have hshown : shown' = some shown := by
    obtain ⟨checkpoint, rfl⟩ := hshows.exists_checkpoint hmean
    rcases hresult error herror with ⟨hunavailable, hempty⟩ | ⟨hpanic, -⟩
    · rcases herror.eq_emptyInput_or_exists with rfl | ⟨name, message, attached, rfl⟩
      · cases hempty rfl
      · obtain ⟨-, -, hcheckpoint⟩ : name = "mean" ∧ message = "refused" ∧ checkpoint = shown := by
          simpa using (hunavailable _ _ _ rfl).symm
        exact congrArg some hcheckpoint
    · cases hpanic
  exact ⟨_, earlier, breakdown, _, hcall, hfault, hcalls, hearlier, hshown ▸ hshows, hfit, rfl⟩

end Clustering

end SampledKmeans
