import SampledKmeans.Proofs.Clustering.Contract
import SampledKmeans.Proofs.Clustering.Lifting
import SampledKmeans.Proofs.Table.Sink
import SampledKmeans.Service

/-!
# What a job hands to a sink

A job first does everything that can be done without the sink, and then writes two
tables.  `Service.clusterJob` is the first part; its answer is the report that is
given if the writes succeed.  It works on the stores of the catalog alone, so that it
neither depends on the sink nor changes it (`Service.lifts_clusterJob`).  The second
part, `Service.deliver`, makes the writes one after the other and stops at the first
that does not succeed in time.

Which writes a sink receives is told by a sink that records them; the theorem about
them is an assembly of how the two parts end.
-/

namespace SampledKmeans

open Procedure

deriving instance DecidableEq for JobReport

variable {σ τ ρ : Type}

namespace JobReport

/-- The write of the centroids that were found. -/
def centroidsWrite (report : JobReport) : TableWrite :=
  .centroids report.names.centroidsTable.text report.result.centroids

/-- The write of the assignments that were found. -/
def assignmentsWrite (report : JobReport) : TableWrite :=
  .assignments report.names.pointsTable.text report.result.assignments

/-- The writes of a report, in order. -/
def writes (report : JobReport) : List TableWrite :=
  [report.centroidsWrite, report.assignmentsWrite]

end JobReport

/-! ## The state of a catalog beside that of a sink -/

/-- The session with the state of a sink beside that of the catalog. -/
def Session.beside (session : Session σ ρ) (state : τ) : Session (σ × τ) ρ :=
  session.within fun part => (part, state)

/-- The catalog, seen from a state that also holds that of a sink. -/
def Catalog.beside (catalog : Catalog σ ChaCha) : Catalog (σ × τ) ChaCha := fun name =>
  (catalog name).map Service.besideSink

theorem Catalog.resolve_beside (catalog : Catalog σ ChaCha) (source : String) :
    (catalog.beside : Catalog (σ × τ) ChaCha).resolve source =
      (catalog.resolve source).map Service.besideSink := by
  unfold resolve beside
  cases catalog source <;> rfl

/-- The catalogs know the same sources, and the stores of the one lift those of the
other. -/
def Catalog.Lifts (embed : σ → τ) (catalog : Catalog σ ChaCha) (lifted : Catalog τ ChaCha) :
    Prop :=
  ∀ source, Option.Rel (PointStore.Lifts embed) (catalog source) (lifted source)

theorem Catalog.Lifts.resolve {embed : σ → τ} {catalog : Catalog σ ChaCha}
    {lifted : Catalog τ ChaCha} (h : Catalog.Lifts embed catalog lifted) (source : String) :
    (∃ error, catalog.resolve source = .error error ∧ lifted.resolve source = .error error) ∨
      ∃ store store', catalog.resolve source = .ok store ∧ lifted.resolve source = .ok store' ∧
        PointStore.Lifts embed store store' := by
  have hsource := h source
  unfold Catalog.resolve
  revert hsource
  generalize catalog source = found
  generalize lifted source = found'
  intro hsource
  cases hsource with
  | none => exact .inl ⟨_, rfl, rfl⟩
  | some hstore => exact .inr ⟨_, _, rfl, rfl, hstore⟩

/-- A catalog lifts to the one beside a sink, whatever the state of the sink is. -/
theorem Catalog.lifts_beside (catalog : Catalog σ ChaCha) (state : τ) :
    Catalog.Lifts (fun part => (part, state)) catalog catalog.beside := by
  intro source
  unfold beside
  cases catalog source with
  | none => exact .none
  | some store => exact .some (store.lifts_focus (fun _ => rfl) fun _ _ => rfl)

/-- Beside a sink, a catalog does not depend on what is known of the sink. -/
theorem Catalog.lifts_beside_map {τ' : Type} (catalog : Catalog σ ChaCha) (forget : τ' → τ) :
    Catalog.Lifts (Prod.map id forget) catalog.beside catalog.beside := by
  intro source
  unfold beside
  cases catalog source with
  | none => exact .none
  | some store => exact .some ⟨fun _ _ _ => rfl, fun _ => rfl, fun _ => rfl, rfl, fun _ _ => rfl⟩

namespace Service

/-- The service for a part of a state that is embedded: the caller asks to stop as in
the whole state. -/
def comap (embed : σ → τ) (service : Service τ) : Service σ where
  settings := service.settings
  stop := fun iterations state => service.stop iterations (embed state)

/-! ## The two parts of a job -/

/-- What a job does before it writes: it settles the names and clusters the source. -/
def clusterJob (service : Service σ) (environment : Environment) (catalog : Catalog σ ChaCha)
    (job : Job) : Procedure σ ChaCha JobReport := do
  check service.settings.validate
  if job.k = 0 then
    fail (.invalidArgument .emptyJob)
  else
    let names ← settleNames environment job
    let store ← check (catalog.resolve job.source)
    report (.jobSettled job.k job.source job.withFit names.id names.centroidsTable.text
      names.pointsTable.text)
    let result ← Procedure.withRandom (service.settings.randomness environment.randomness)
      ((service.clustering job.k job.withFit).fit store)
    return { names, result }

/-- Writes the tables of a report. -/
def deliver (limit : Option Duration) (sink : TableSink τ) (report : JobReport) :
    Procedure (σ × τ) ChaCha JobReport := do
  write ((sink.timed limit).apply report.centroidsWrite)
  write ((sink.timed limit).apply report.assignmentsWrite)
  return report

theorem perform_eq (service : Service (σ × τ)) (environment : Environment)
    (catalog : Catalog σ ChaCha) (sink : TableSink τ) (job : Job) :
    service.perform environment catalog sink job = (do
      let report ← service.clusterJob environment catalog.beside job
      deliver service.settings.timeout sink report) := by
  unfold perform clusterJob
  rw [bind_assoc]
  congr 1
  funext _
  split_ifs
  · rfl
  · simp only [bind_assoc, pure_bind, Catalog.resolve_beside, check_map]
    rfl

/-! ### The first part -/

section Clustering

theorem lifts_settleNames (embed : σ → τ) (environment : Environment) (job : Job) :
    Lifts embed (settleNames environment job) (settleNames environment job) := by
  unfold settleNames
  apply (lifts_check _).bind
  intro source
  apply Lifts.ite
  · exact (lifts_report _).bind fun _ => lifts_pure _
  · exact lifts_pure _

theorem lifts_clusterJob {embed : σ → τ} {catalog : Catalog σ ChaCha} {lifted : Catalog τ ChaCha}
    (h : Catalog.Lifts embed catalog lifted) (service : Service τ) (environment : Environment)
    (job : Job) :
    Lifts embed ((service.comap embed).clusterJob environment catalog job)
      (service.clusterJob environment lifted job) := by
  unfold clusterJob
  apply (lifts_check _).bind
  intro _
  apply Lifts.ite
  · exact lifts_fail _
  apply (lifts_settleNames embed environment job).bind
  intro names
  rcases h.resolve job.source with ⟨error, hsource, hsource'⟩ | ⟨store, store', hsource, hsource',
    hstore⟩
  · rw [hsource, hsource']
    exact fun _ => rfl
  · rw [hsource, hsource', check, check, pure_bind, pure_bind]
    apply (lifts_report _).bind
    intro _
    apply Lifts.bind
    · exact ((service.clustering job.k job.withFit).lifts_fit hstore).withRandom _
    · intro result
      exact lifts_pure _

variable {service : Service (σ × τ)} {environment : Environment} {catalog : Catalog σ ChaCha}
  {sink : TableSink τ} {job : Job} {session after : Session σ ChaCha} {state : τ}
  {report : JobReport} {failure : Failure}

theorem fails_perform
    (h : ((service.comap fun part => (part, state)).clusterJob environment catalog job).Fails
      session failure after) :
    (service.perform environment catalog sink job).Fails (session.beside state) failure
      (after.beside state) := by
  rw [perform_eq]
  exact ((lifts_clusterJob (catalog.lifts_beside state) service environment job).fails h).bind

theorem runIn_perform
    (h : ((service.comap fun part => (part, state)).clusterJob environment catalog job).Answers
      session report after) :
    (service.perform environment catalog sink job).runIn (session.beside state) =
      (deliver service.settings.timeout sink report).runIn (after.beside state) := by
  rw [perform_eq]
  have hlifts := lifts_clusterJob (catalog.lifts_beside state) service environment job
  exact (hlifts.answers h).runIn_bind

/-- The assignments of a report name its centroids. -/
theorem centroidId_mem_of_clusterJob {service : Service σ}
    (h : (service.clusterJob environment catalog job).Answers session report after) :
    ∀ a ∈ report.result.assignments, a.centroidId ∈ report.result.centroids.map Centroid.id := by
  unfold clusterJob at h
  obtain ⟨_, _, -, h⟩ := answers_bind_iff.mp h
  split_ifs at h with hk
  · exact absurd h not_answers_fail
  obtain ⟨names, _, -, h⟩ := answers_bind_iff.mp h
  obtain ⟨store, _, -, h⟩ := answers_bind_iff.mp h
  obtain ⟨_, reported, -, h⟩ := answers_bind_iff.mp h
  obtain ⟨result, _, hfit, h⟩ := answers_bind_iff.mp h
  obtain ⟨rfl, -⟩ := answers_pure_iff.mp h
  obtain ⟨behind, hfit, -⟩ := answers_withRandom_iff.mp hfit
  obtain ⟨course, rfl⟩ := Clustering.exists_course hfit
  intro a ha
  exact course.centroidId_mem ha

end Clustering

/-! ### The second part -/

section Delivery

variable (limit : Option Duration) (sink : TableSink τ)

/-- The session after a write. -/
def afterWrite (write : TableWrite) (session : Session (σ × τ) ChaCha) :
    Session (σ × τ) ChaCha where
  store := (session.store.1, (sink.apply write session.store.2).2)
  random := session.random
  events := session.events ++ ((sink.timed limit).apply write session.store.2).1.events

variable {limit sink}

theorem runIn_write (write : TableWrite) (session : Session (σ × τ) ChaCha) :
    (Service.write ((sink.timed limit).apply write)).runIn session =
      (((sink.timed limit).apply write session.store.2).1.outcome.mapError Failure.error,
        afterWrite limit sink write session) := by
  cases write <;> exact runIn_call _ session

theorem answers_write_iff {write : TableWrite} {session after : Session (σ × τ) ChaCha} {u : Unit} :
    (Service.write ((sink.timed limit).apply write)).Answers session u after ↔
      (sink.apply write session.store.2).1.InTime limit ∧
        after = afterWrite limit sink write session := by
  rw [Answers, runIn_write, ← TableSink.outcome_apply_timed_eq_ok_iff]
  cases ((sink.timed limit).apply write session.store.2).1.outcome <;>
    simp [Except.mapError, eq_comm]

theorem exists_fails_write {write : TableWrite} {session : Session (σ × τ) ChaCha}
    (h : ¬ (sink.apply write session.store.2).1.InTime limit) :
    ∃ error, (Service.write ((sink.timed limit).apply write)).Fails session (.error error)
      (afterWrite limit sink write session) := by
  rw [← TableSink.outcome_apply_timed_eq_ok_iff] at h
  cases houtcome : ((sink.timed limit).apply write session.store.2).1.outcome with
  | ok _ => exact absurd houtcome h
  | error error =>
      refine ⟨error, ?_⟩
      rw [Fails, runIn_write, houtcome]
      rfl

variable {report : JobReport} {session : Session σ ChaCha} {state : τ}

/-- A report is answered if and only if both writes succeed in time. -/
theorem outcome_deliver_eq_ok_iff {answer : JobReport} :
    (deliver limit sink report).outcome (session.beside state) = .ok answer ↔
      (sink.apply report.centroidsWrite state).1.InTime limit ∧
      (sink.apply report.assignmentsWrite
        (sink.apply report.centroidsWrite state).2).1.InTime limit ∧
      answer = report := by
  rw [outcome_eq_ok_iff]
  unfold deliver
  simp only [answers_bind_iff, answers_write_iff, answers_pure_iff]
  constructor
  · rintro ⟨_, _, _, ⟨hfirst, rfl⟩, _, _, ⟨hsecond, rfl⟩, rfl, rfl⟩
    exact ⟨hfirst, hsecond, rfl⟩
  · rintro ⟨hfirst, hsecond, rfl⟩
    exact ⟨_, (), _, ⟨hfirst, rfl⟩, (), _, ⟨hsecond, rfl⟩, rfl, rfl⟩

/-- The second write is made if and only if the first succeeds in time. -/
theorem store_deliver :
    ((deliver limit sink report).runIn (session.beside state)).2.store.2 =
      if (sink.apply report.centroidsWrite state).1.InTime limit then
        (sink.apply report.assignmentsWrite (sink.apply report.centroidsWrite state).2).2
      else (sink.apply report.centroidsWrite state).2 := by
  unfold deliver
  split_ifs with hfirst
  · have hwrites : (write ((sink.timed limit).apply report.centroidsWrite)).Answers
        (session.beside state) () _ := answers_write_iff.mpr ⟨hfirst, rfl⟩
    rw [hwrites.runIn_bind, runIn_bind, runIn_write]
    cases ((sink.timed limit).apply report.assignmentsWrite _).1.outcome <;> rfl
  · obtain ⟨error, hfails⟩ : ∃ error, (write ((sink.timed limit).apply report.centroidsWrite)).Fails
        (session.beside state) (.error error) _ := exists_fails_write hfirst
    rw [hfails.bind]
    rfl

end Delivery

/-! ## The writes of a job -/

/-- The service beside a sink that records its writes. -/
def recorded (service : Service (σ × τ)) : Service (σ × τ × List TableWrite) :=
  service.comap (Prod.map id Prod.fst)

/-- The session with an empty record of writes. -/
def recordingWrites (session : Session (σ × τ) ChaCha) :
    Session (σ × τ × List TableWrite) ChaCha :=
  session.within (Prod.map id fun state => (state, []))

/-- The writes that a sink receives from a job. -/
def writes (service : Service (σ × τ)) (environment : Environment) (catalog : Catalog σ ChaCha)
    (sink : TableSink τ) (job : Job) (session : Session (σ × τ) ChaCha) : List TableWrite :=
  ((service.recorded.perform environment catalog sink.recorded job).runIn
    (recordingWrites session)).2.store.2.2

theorem lifts_perform_recorded (service : Service (σ × τ)) (environment : Environment)
    (catalog : Catalog σ ChaCha) (sink : TableSink τ) (job : Job) :
    Lifts (Prod.map id Prod.fst) (service.recorded.perform environment catalog sink.recorded job)
      (service.perform environment catalog sink job) := by
  rw [perform_eq, perform_eq]
  apply (lifts_clusterJob (catalog.lifts_beside_map Prod.fst) service environment job).bind
  intro report
  apply Lifts.bind
  · exact lifts_call fun _ => rfl
  intro _
  apply Lifts.bind
  · exact lifts_call fun _ => rfl
  intro _
  exact lifts_pure report

/-- Recording the writes changes nothing else. -/
theorem runIn_perform_recorded (service : Service (σ × τ)) (environment : Environment)
    (catalog : Catalog σ ChaCha) (sink : TableSink τ) (job : Job)
    (session : Session (σ × τ) ChaCha) :
    let recorded := (service.recorded.perform environment catalog sink.recorded job).runIn
      (recordingWrites session)
    (service.perform environment catalog sink job).runIn session =
      (recorded.1, recorded.2.within (Prod.map id Prod.fst)) :=
  lifts_perform_recorded service environment catalog sink job (recordingWrites session)

section Writes

variable {service : Service (σ × τ)} {environment : Environment} {catalog : Catalog σ ChaCha}
  {sink : TableSink τ} {job : Job} {session after : Session σ ChaCha} {state : τ}
  {report : JobReport} {failure : Failure}

theorem writes_of_fails
    (h : ((service.comap fun part => (part, state)).clusterJob environment catalog job).Fails
      session failure after) :
    service.writes environment catalog sink job (session.beside state) = [] := by
  have hfails : (service.recorded.perform environment catalog sink.recorded job).Fails
      (session.beside (state, [])) failure (after.beside (state, [])) :=
    fails_perform h
  exact congrArg (fun run => run.2.store.2.2) hfails

theorem writes_of_answers
    (h : ((service.comap fun part => (part, state)).clusterJob environment catalog job).Answers
      session report after) :
    service.writes environment catalog sink job (session.beside state) =
      if (sink.apply report.centroidsWrite state).1.InTime service.settings.timeout then
        report.writes
      else [report.centroidsWrite] := by
  have hrun : (service.recorded.perform environment catalog sink.recorded job).runIn
      (session.beside (state, [])) =
        (deliver service.settings.timeout sink.recorded report).runIn (after.beside (state, [])) :=
    runIn_perform h
  change ((service.recorded.perform environment catalog sink.recorded job).runIn
    (session.beside (state, []))).2.store.2.2 = _
  rw [hrun, store_deliver, TableSink.apply_recorded, TableSink.apply_recorded]
  split_ifs <;> rfl

/-- A job that answers leaves the sink with both of its writes. -/
theorem store_of_answers {behind : Session (σ × τ) ChaCha}
    (h : (service.perform environment catalog sink job).Answers (session.beside state) report
      behind) :
    behind.store.2 =
      (sink.apply report.assignmentsWrite (sink.apply report.centroidsWrite state).2).2 := by
  rcases ((service.comap fun part => (part, state)).clusterJob environment catalog
    job).answers_or_fails session with ⟨pending, after, hanswers⟩ | ⟨failure, after, hfails⟩
  · rw [Answers, runIn_perform hanswers] at h
    obtain ⟨hfirst, -, rfl⟩ := outcome_deliver_eq_ok_iff.mp (congrArg Prod.fst h)
    have hstore := congrArg (fun run => run.2.store.2) h
    dsimp only at hstore
    rw [← hstore, store_deliver, if_pos hfirst]
  · have hperforms : (service.perform environment catalog sink job).Fails (session.beside state)
        failure (after.beside state) := fails_perform hfails
    rw [Answers, hperforms] at h
    cases h

end Writes

/-- The output contract of a job, for every catalog, all settings and every sink.

A job that fails before its writes hands nothing to the sink.  Otherwise there is one
report, and the sink receives its two writes in order, the second only if the first
succeeded in time.  The job answers if and only if both did, and then it answers that
report, whose assignments name its centroids.

With tables in memory a job that answers has put the two tables in the place of what
had their names before, and changed no other table. -/
theorem perform_output (environment : Environment) (catalog : Catalog σ ChaCha) (job : Job)
    (session : Session σ ChaCha) :
    (∀ {τ : Type} (service : Service (σ × τ)) (sink : TableSink τ) (state : τ),
      let clustered := ((service.comap fun part => (part, state)).clusterJob environment catalog
        job).outcome session
      let outcome := (service.perform environment catalog sink job).outcome (session.beside state)
      let writes := service.writes environment catalog sink job (session.beside state)
      let limit := service.settings.timeout
      (∀ failure, clustered = .error failure → outcome = .error failure ∧ writes = []) ∧
      ∀ report, clustered = .ok report →
        let first := sink.apply report.centroidsWrite state
        let second := sink.apply report.assignmentsWrite first.2
        writes <+: report.writes ∧ writes.length = (if first.1.InTime limit then 2 else 1) ∧
        (∀ answer, outcome = .ok answer ↔
          first.1.InTime limit ∧ second.1.InTime limit ∧ answer = report) ∧
        ∀ a ∈ report.result.assignments, a.centroidId ∈ report.result.centroids.map Centroid.id) ∧
    ∀ (service : Service (σ × Tables)) (tables : Tables) (report : JobReport)
      (after : Session (σ × Tables) ChaCha),
      (service.perform environment catalog Tables.sink job).Answers (session.beside tables) report
        after →
      (∀ name, after.store.2.centroids? name =
        if report.names.centroidsTable.text = name then some report.result.centroids
        else tables.centroids? name) ∧
      ∀ name, after.store.2.assignments? name =
        if report.names.pointsTable.text = name then some report.result.assignments
        else tables.assignments? name := by
  constructor
  · intro τ service sink state clustered outcome writes limit
    constructor
    · intro failure hclustered
      obtain ⟨after, hfails⟩ := outcome_eq_error_iff.mp hclustered
      exact ⟨(fails_perform hfails).outcome_eq, writes_of_fails hfails⟩
    · intro report hclustered first second
      obtain ⟨after, hanswers⟩ := outcome_eq_ok_iff.mp hclustered
      have hwrites : writes = if first.1.InTime limit then report.writes else
          [report.centroidsWrite] := writes_of_answers hanswers
      have houtcome : outcome = (deliver limit sink report).outcome (after.beside state) :=
        congrArg Prod.fst (runIn_perform hanswers)
      refine ⟨?_, ?_, ?_, centroidId_mem_of_clusterJob hanswers⟩
      · rw [hwrites]
        split_ifs
        · exact List.prefix_refl _
        · exact List.prefix_append [report.centroidsWrite] [report.assignmentsWrite]
      · rw [hwrites]
        split_ifs <;> rfl
      · intro answer
        rw [houtcome]
        exact outcome_deliver_eq_ok_iff
  · intro service tables report after hperforms
    have hstore : after.store.2 = (tables.putCentroids report.names.centroidsTable.text
        report.result.centroids).putAssignments report.names.pointsTable.text
          report.result.assignments := store_of_answers hperforms
    rw [hstore]
    constructor
    · intro name
      rw [Tables.centroids?_putAssignments, Tables.centroids?_putCentroids_eq]
    · intro name
      rw [Tables.assignments?_putAssignments_eq, Tables.assignments?_putCentroids]

/-- One cluster of three points.  A sink that takes longer than the limit receives the
first write only, and tables in memory hold both. -/
theorem perform_output_onLine :
    let population : Population := ⟨(pointsOnLine [1.0, 2.0, 6.0]).toArray, by decide, by decide⟩
    let catalog : Catalog Unit ChaCha := Catalog.ofPopulations [("s.t", population)]
    let environment : Environment := { generatedId := "17", randomness := .ofSeed 7 }
    let job : Job := { source := "s.t", k := 1 }
    let service : Service (Unit × Tables) :=
      { settings := { sampling := false, timeoutMs := some 10 } }
    let session : Session Unit ChaCha := { store := (), random := .ofSeed 7 }
    let slow : SinkScript := { delay := 20 }
    ∃ report,
      ((service.comap fun part => (part, {})).clusterJob environment catalog job).outcome session =
        .ok report ∧
      service.writes environment catalog slow.sink job (session.beside {}) =
        [report.centroidsWrite] ∧
      (∀ answer, (service.perform environment catalog slow.sink job).outcome (session.beside {}) ≠
        .ok answer) ∧
      service.writes environment catalog Tables.sink job (session.beside {}) = report.writes ∧
      ∃ after, (service.perform environment catalog Tables.sink job).Answers (session.beside {})
          report after ∧
        after.store.2.centroids? "\"public\".\"kmeans_out_centroids_17\"" =
          some (centroidsOnLine [3.0]) ∧
        after.store.2.centroids? "t" = none := by
  intro population catalog environment job service session slow
  let report : JobReport := ⟨job.namesWith ⟨"s", "t"⟩ "17", {
    centroids := centroidsOnLine [3.0],
    assignments := (pointsOnLine [1.0, 2.0, 6.0]).map fun point => point.assignTo 1,
    fit := some 2.0, iterations := 2, reason := .belowLimit 0.001, changeTrace := [0.0],
    requested := 1, dead := [], population := 3, workingSize := 3, expanded := false }⟩
  have hok : ((service.comap fun part => (part, {})).clusterJob environment catalog job).outcome
      session = .ok report := by
    decide +kernel
  obtain ⟨houtput, hmemory⟩ := perform_output environment catalog job session
  obtain ⟨hslow, hone, hrefused, -⟩ := (houtput service slow.sink {}).2 report hok
  obtain ⟨hfast, htwo, hanswered, -⟩ := (houtput service Tables.sink {}).2 report hok
  have hlate : ¬ (slow.sink.apply report.centroidsWrite {}).1.InTime service.settings.timeout := by
    decide
  have hintime (write : TableWrite) (tables : Tables) :
      (Tables.sink.apply write tables).1.InTime service.settings.timeout := by
    have hreply : (Tables.sink.apply write tables).1 = .ok () := by cases write <;> rfl
    rw [hreply]
    decide
  rw [if_neg hlate] at hone
  rw [if_pos (hintime _ _)] at htwo
  obtain ⟨after, hafter⟩ := outcome_eq_ok_iff.mp
    ((hanswered report).mpr ⟨hintime _ _, hintime _ _, rfl⟩)
  obtain ⟨hcentroids, -⟩ := hmemory service {} report after hafter
  refine ⟨report, hok, ?_, ?_, ?_, after, hafter, ?_, ?_⟩
  · rw [List.prefix_iff_eq_take.mp hslow, hone]
    rfl
  · intro answer hanswer
    exact hlate ((hrefused answer).mp hanswer).1
  · exact hfast.eq_of_length htwo
  · rw [hcentroids, if_pos (by decide)]
  · rw [hcentroids, if_neg (by decide)]
    rfl

end Service

end SampledKmeans
