import SampledKmeans.Proofs.Clustering.Contract
import SampledKmeans.Proofs.Fit
import SampledKmeans.Proofs.Refinement.Endings
import SampledKmeans.Proofs.Seeding.Endings

/-!
# How clusterings end

Once a clustering has validated its request it fails only as its store does,
apart from a shortfall that the settings do not allow and a number of centroids
for which there is no room (`Clustering.ensures_proceed`).  Every refusal that a
later stage could answer with is ruled out by a stage before it:

* sample sizes by the confidence and the number of clusters, which are
  validated;
* the arguments of refinement by the iteration limit, which is validated, and by
  the numbers that seeding gives;
* expansion to no centroid, and a label that names none, by the soundness of the
  refinement.
-/

namespace SampledKmeans

open Procedure

variable {σ ρ : Type} {P : SparseVector → Prop} {E : Failure → Prop} {store : PointStore σ ρ}
  {centroids : List Centroid}

/-! ## Expansion -/

namespace Expansion

theorem ensures_readBlocks (h : store.Serves P E) (hcentroids : ∀ c ∈ centroids, P c.position)
    {items : List (Reply Point)} (hitems : ∀ item ∈ items, item.Within P E) {pending : List Point}
    (hpending : ∀ p ∈ pending, P p.position) (room : Nat) (state : Draft) :
    Ensures E (readBlocks store centroids items pending room state) fun _ => True := by
  have hassign : ∀ {pending : List Point}, (∀ p ∈ pending, P p.position) → ∀ state,
      Ensures E (assignBlock store centroids state pending.reverse) fun _ => True :=
    fun hpending => ensures_assignBlock fun p hp =>
      h.metric_of_mem (hpending p (List.mem_reverse.mp hp)) hcentroids
  induction items generalizing pending room state with
  | nil => exact hassign hpending state
  | cons item rest ih =>
      obtain ⟨hitem, hrest⟩ := List.forall_mem_cons.mp hitems
      cases room with
      | zero =>
          exact (hassign hpending state).bind fun state _ =>
            hitem.ensures_check.bind fun point hpoint =>
              ih hrest (List.forall_mem_singleton.mpr hpoint) (blockSize - 1) state
      | succ room =>
          exact hitem.ensures_check.bind fun point hpoint =>
            ih hrest (List.forall_mem_cons.mpr ⟨hpoint, hpending⟩) room state

end Expansion

theorem PointStore.Serves.ensures_expand (h : store.Serves P E) (withFit : Bool)
    (hcentroids : ∀ c ∈ centroids, P c.position) (hne : centroids ≠ []) :
    Ensures E (store.expand withFit centroids) fun _ => True := by
  unfold PointStore.expand
  rw [if_neg (by simpa using hne)]
  exact h.scan.bind fun items hitems =>
    (Expansion.ensures_readBlocks h hcentroids hitems.1 (by simp) blockSize {}).bind
      fun _ _ => ensures_pure trivial

/-! ## Goodness of fit -/

theorem PointStore.Serves.ensures_goodnessOfFit (h : store.Serves P E)
    (hcentroids : ∀ c ∈ centroids, P c.position) {assigned : List (SparseVector × Nat)}
    (hne : assigned ≠ [])
    (hassigned : ∀ entry ∈ assigned, P entry.1 ∧ entry.2 ∈ centroids.map Centroid.id) :
    Ensures E (store.goodnessOfFit assigned centroids) fun _ => True := by
  have hids : ∀ entry ∈ assigned, entry.2 ∈ centroids.map Centroid.id :=
    fun entry hentry => (hassigned entry hentry).2
  rw [PointStore.goodnessOfFit_eq hne hids]
  refine (ensures_expect fun hnone => ?_).imp fun _ _ => trivial
  obtain ⟨entry, hentry, c, hc, -, hundefined⟩ := PointStore.exists_undefined_of_fit? hne hids hnone
  exact h.metric _ _ (hassigned entry hentry).1 (hcentroids c hc) hundefined

/-! ## Settings that can be used -/

theorem Settings.maxIterations_pos_of_validate {settings : Settings}
    (h : settings.validate = .ok ()) : 0 < settings.maxIterations := by
  unfold validate at h
  split_ifs at h with hmax
  exact Nat.pos_of_ne_zero hmax

theorem Settings.exists_coverage_of_validate {settings : Settings}
    (h : settings.validate = .ok ()) {k : Nat} (hk : k ≠ 0) :
    ∃ draws, coverage k settings.confidence = .ok draws := by
  unfold validate at h
  split_ifs at h with _ _ _ hconfidence
  exact exists_coverage hk hconfidence

/-! ## Validation -/

namespace Clustering

/-- What can be refused of a request without asking the store. -/
def checkRequest (clustering : Clustering σ) : Except Error Unit := do
  clustering.settings.validate
  if clustering.k = 0 then .error (.invalidArgument .noCentroids) else .ok ()

/-- Refuses a population that is too small. -/
def checkPopulation (clustering : Clustering σ) (population : Nat) : Except Error Nat :=
  if population = 0 then .error .emptyInput
  else if population ≤ clustering.k then
    .error (.invalidArgument (.population population clustering.k))
  else .ok population

theorem checkRequest_eq_ok_iff {clustering : Clustering σ} {u : Unit} :
    clustering.checkRequest = .ok u ↔ clustering.settings.validate = .ok () ∧ clustering.k ≠ 0 := by
  unfold checkRequest
  cases clustering.settings.validate with
  | error error => simp [bind, Except.bind]
  | ok _ => by_cases hk : clustering.k = 0 <;> simp [bind, Except.bind, hk]

theorem validate_eq (clustering : Clustering σ) (store : PointStore σ ρ) :
    clustering.validate store = (do
      check clustering.checkRequest
      let population ← store.askCount
      check (clustering.checkPopulation population)) := by
  have hpopulation : ∀ population,
      (check (clustering.checkPopulation population) : Procedure σ ρ Nat) =
        if population = 0 then fail .emptyInput
        else if population ≤ clustering.k then
          fail (.invalidArgument (.population population clustering.k))
        else pure population := by
    intro population
    unfold checkPopulation
    split_ifs <;> rfl
  unfold validate checkRequest
  simp only [hpopulation]
  cases clustering.settings.validate with
  | error error => rfl
  | ok _ => by_cases hk : clustering.k = 0 <;> simp only [hk] <;> rfl

/-- A request that nothing speaks against is decided by the count. -/
theorem runIn_validate {clustering : Clustering σ} {population : Nat} {session : Session σ ρ}
    (hrequest : clustering.checkRequest = .ok ())
    (hcount : (store.count session.store).1.outcome = .ok population) :
    (clustering.validate store).runIn session =
      (check (clustering.checkPopulation population) : Procedure σ ρ Nat).runIn
        (afterCall store.count session) := by
  have hchecks : (check clustering.checkRequest : Procedure σ ρ Unit).Answers session () session :=
    answers_check_iff.mpr ⟨hrequest, rfl⟩
  have hcounts : store.askCount.Answers session population (afterCall store.count session) :=
    answers_call_iff.mpr ⟨hcount, rfl⟩
  rw [validate_eq, runIn_bind, hchecks.runIn_eq]
  dsimp only
  rw [runIn_bind, hcounts.runIn_eq]

end Clustering

/-! ## The stages of a clustering -/

namespace Clustering

variable {clustering : Clustering σ} {working : List Point} {refinement : Refinement}

theorem ids_eq_of_seed [RandomSource ρ] {seeding : Seeding} {session after : Session σ ρ}
    (h : (clustering.seed store).Answers session seeding after) :
    seeding.centroids.map Centroid.id = clusterLabels seeding.centroids.length := by
  obtain ⟨_, _, -, hseed⟩ := answers_bind_iff.mp h
  exact SeedPlan.ids_eq_of_seed hseed

theorem ensures_accept {seeding : Seeding}
    (h : clustering.settings.allowShortfall = false → seeding.achieved < seeding.requested →
      E (.error (.seedingShortfall seeding.requested seeding.achieved))) :
    Ensures E (clustering.accept seeding : Procedure σ ρ Unit) fun _ => True := by
  unfold accept
  split_ifs with hshort hallow
  · change Ensures E (do
      check seeding.ensureComplete
      report (.fewerCentroids clustering.k seeding.achieved)) _
    refine (ensures_check fun error herror => ?_).bind fun _ _ => ensures_report _
    rw [Seeding.ensureComplete, if_pos hshort] at herror
    exact Except.error.inj herror ▸ h (by simpa using hallow) (of_decide_eq_true hshort)
  · exact ensures_report (.fewerCentroids _ _)
  · exact ensures_pure trivial

theorem exists_sampleSize_eq (hvalid : clustering.settings.validate = .ok ())
    (hk : clustering.k ≠ 0) :
    ∃ draws, clustering.sampleSize = .ok (max (min draws clustering.settings.maxSample)
      clustering.k) := by
  obtain ⟨draws, hdraws⟩ := Settings.exists_coverage_of_validate hvalid hk
  refine ⟨capCount (draws * clustering.settings.perCluster), ?_⟩
  rw [sampleSize, workingSampleSize, hdraws]
  rfl

/-- Samples have at least one point for each cluster. -/
theorem exists_sampleSize_of_validate (hvalid : clustering.settings.validate = .ok ())
    (hk : clustering.k ≠ 0) : ∃ size, clustering.sampleSize = .ok size ∧ clustering.k ≤ size := by
  obtain ⟨draws, heq⟩ := exists_sampleSize_eq hvalid hk
  exact ⟨_, heq, Nat.le_max_right _ _⟩

/-- Where samples are to have no more points than there are clusters, they have one for
each. -/
theorem sampleSize_of_maxSample_le (hvalid : clustering.settings.validate = .ok ())
    (hk : clustering.k ≠ 0) (hmax : clustering.settings.maxSample ≤ clustering.k) :
    clustering.sampleSize = .ok clustering.k := by
  obtain ⟨draws, heq⟩ := exists_sampleSize_eq hvalid hk
  rw [heq, Nat.max_eq_right (Nat.le_trans (Nat.min_le_right _ _) hmax)]

/-- The working set is a sample of at least one point, or all points. -/
theorem ensures_workingSet (h : store.Serves P E) (hvalid : clustering.settings.validate = .ok ())
    (hk : clustering.k ≠ 0) (population : Nat) :
    Ensures E (clustering.workingSet store population) fun loaded =>
      (∀ p ∈ loaded.1, P p.position) ∧ (loaded.1 = [] → E (.error .emptyInput)) := by
  obtain ⟨size, hsize, hle⟩ := exists_sampleSize_of_validate hvalid hk
  have hpos : 0 < size := Nat.lt_of_lt_of_le (Nat.pos_of_ne_zero hk) hle
  unfold workingSet
  rw [hsize]
  refine Ensures.bind (ensures_pure (Q := fun found => found = size) rfl) fun _ hfound => ?_
  subst hfound
  split_ifs
  · exact (ensures_report _).bind fun _ _ =>
      (h.sample _ hpos).bind fun _ hpoints => ensures_pure hpoints
  · exact (ensures_report _).bind fun _ _ =>
      h.ensures_scanAll.bind fun _ hpoints => ensures_pure hpoints

theorem ensures_expandSample (h : store.Serves P E)
    (hcentroids : ∀ c ∈ refinement.centroids, P c.position) (hne : refinement.centroids ≠ []) :
    Ensures E (clustering.expandSample store refinement) fun _ => True :=
  (ensures_report _).bind fun _ _ =>
    ((h.ensures_expand clustering.withFit hcentroids hne).checkpointed (h.checkpoint _)).bind
      fun _ _ => ensures_pure trivial

theorem ensures_labelAll (h : store.Serves P E) (hworking : ∀ p ∈ working, P p.position)
    (hne : working ≠ []) (hcentroids : ∀ c ∈ refinement.centroids, P c.position)
    (hlength : refinement.labels.length = working.length)
    (hlabels : ∀ label ∈ refinement.labels, label ∈ refinement.centroids.map Centroid.id) :
    Ensures E (clustering.labelAll store working refinement) fun _ => True := by
  have hzip : working.zip refinement.labels ≠ [] := zip_ne_nil hne hlength
  unfold labelAll
  dsimp only
  split_ifs
  · refine Ensures.bind (h.ensures_goodnessOfFit hcentroids (by simpa using hzip) ?_)
      fun _ _ => ensures_pure trivial
    rintro _ hentry
    obtain ⟨⟨point, label⟩, hmem, rfl⟩ := List.mem_map.mp hentry
    obtain ⟨hpoint, hlabel⟩ := List.of_mem_zip hmem
    exact ⟨hworking point hpoint, hlabels label hlabel⟩
  · exact ensures_pure trivial

/-! ## The whole of it -/

/-- The assignment of all points, by whichever way the working set asks for. -/
def assignAll (clustering : Clustering σ) (store : PointStore σ ρ) (loaded : List Point × Bool)
    (refinement : Refinement) : Procedure σ ρ (List Assignment × Option Float) :=
  if loaded.2 then clustering.expandSample store refinement
  else clustering.labelAll store loaded.1 refinement

/-- The answer that is made of what the stages answered. -/
def conclude (clustering : Clustering σ) (population : Nat) (loaded : List Point × Bool)
    (refinement : Refinement) (assigned : List Assignment × Option Float) :
    Procedure σ ρ Clustered := do
  if let some fit := assigned.2 then
    report (.goodnessOfFit fit)
  return {
    centroids := refinement.centroids
    assignments := assigned.1
    fit := assigned.2
    iterations := refinement.iterations
    reason := refinement.reason
    changeTrace := refinement.changeTrace
    requested := clustering.k
    dead := refinement.dead
    population
    workingSize := loaded.1.length
    expanded := loaded.2 }

theorem label_mem_ids_of_sound {last : Progress} {k : Nat} (hsound : last.Sound working k)
    (hiterated : 0 < last.iterations) :
    ∀ label ∈ last.labels, label ∈ last.centroids.map Centroid.id := by
  intro label hlabel
  rw [hsound.ids_eq]
  exact (hsound.assigned hiterated).label_mem label hlabel

/-- The labels of a sound state name its centroids, and there is one at least. -/
theorem ensures_assignAll (h : store.Serves P E) {loaded : List Point × Bool} {last : Progress}
    {reason : StopReason} {k : Nat} (hsound : last.Sound loaded.1 k) (hk : 0 < k)
    (hiterated : 0 < last.iterations) (hworking : ∀ p ∈ loaded.1, P p.position)
    (hne : loaded.1 ≠ []) (hcentroids : ∀ c ∈ last.centroids, P c.position) :
    Ensures E (clustering.assignAll store loaded (last.finish reason)) fun _ => True := by
  have hassigned := hsound.assigned hiterated
  have hlast : last.centroids ≠ [] := by
    rw [← List.length_pos_iff, hsound.length_centroids]
    exact hk
  unfold assignAll
  split_ifs
  · exact ensures_expandSample h hcentroids hlast
  · exact ensures_labelAll h hworking hne hcentroids hassigned.length_labels
      (label_mem_ids_of_sound hsound hiterated)

theorem ensures_conclude (population : Nat) (loaded : List Point × Bool)
    (assigned : List Assignment × Option Float) :
    Ensures E (clustering.conclude population loaded refinement assigned : Procedure σ ρ Clustered)
      fun _ => True := by
  obtain ⟨assignments, _ | fit⟩ := assigned
  · exact ensures_pure trivial
  · exact (ensures_report _).bind fun _ _ => ensures_pure trivial

variable [RandomSource ρ]

/-- What a clustering does once its request is validated, with means that may
overlap. -/
def proceedWith (clustering : Clustering σ) (store : PointStore σ ρ) (overlaps : Overlaps)
    (population : Nat) : Procedure σ ρ Clustered := do
  let seeding ← clustering.seed store
  clustering.accept seeding
  let loaded ← clustering.workingSet store population
  let refinement ←
    clustering.limits.refineWith store overlaps clustering.stop loaded.1 seeding.centroids
  let assigned ← clustering.assignAll store loaded refinement
  clustering.conclude population loaded refinement assigned

/-- What a clustering does once its request is validated. -/
abbrev proceed (clustering : Clustering σ) (store : PointStore σ ρ) (population : Nat) :
    Procedure σ ρ Clustered :=
  clustering.proceedWith store .none population

theorem fitUntimedWith_eq (overlaps : Overlaps) : clustering.fitUntimedWith store overlaps = (do
    let population ← clustering.validate store
    clustering.proceedWith store overlaps population) := by
  unfold fitUntimedWith proceedWith
  congr! 9 with population seeding _ loaded refinement
  obtain ⟨working, sampled⟩ := loaded
  cases sampled <;> rfl

theorem fitUntimed_eq : clustering.fitUntimed store = (do
    let population ← clustering.validate store
    clustering.proceed store population) :=
  fitUntimedWith_eq .none

/-- A clustering that was validated fails as its store does, by a shortfall that
is not allowed, or for want of room. -/
theorem ensures_proceed (h : store.Serves P E) (hvalid : clustering.settings.validate = .ok ())
    (hk : clustering.k ≠ 0) (hroom : maxRows < clustering.k → E .outOfMemory)
    (hshort : clustering.settings.allowShortfall = false → ∀ m, 1 ≤ m → m < clustering.k →
      E (.error (.seedingShortfall clustering.k m)))
    (population : Nat) :
    Ensures E (clustering.proceed store population) fun _ => True := by
  obtain ⟨draws, hdraws⟩ := Settings.exists_coverage_of_validate hvalid hk
  have hseed : Ensures E (clustering.seed store) fun seeding =>
      ∀ c ∈ seeding.centroids, P c.position :=
    (ensures_report _).bind fun _ _ => SeedPlan.ensures_seed h.supplies hdraws hroom
  -- Seeding finds one centroid at least and numbers them in order, which leaves
  -- nothing for refinement to refuse.
  refine (hseed.and_answer fun {_ _ seeding} hanswers => show _ ∧ _ from
    ⟨bounds_of_seed hanswers, ids_eq_of_seed hanswers⟩).bind fun seeding hseeding => ?_
  obtain ⟨hseeds, ⟨hrequested, hpos, -⟩, hids⟩ := hseeding
  refine (ensures_accept fun hallow hlt => ?_).bind fun _ _ => ?_
  · rw [hrequested] at hlt ⊢
    exact hshort hallow _ hpos hlt
  refine (ensures_workingSet h hvalid hk population).bind fun loaded hloaded => ?_
  have hne : seeding.centroids ≠ [] := List.length_pos_iff.mp hpos
  have hmax : 0 < clustering.limits.maxIterations := Settings.maxIterations_pos_of_validate hvalid
  refine ((Limits.ensures_refine h hloaded.1 hloaded.2 hseeds hne hids hmax).and_answer
    fun hanswers => Limits.exists_sound_of_outcome_refine hanswers.outcome_eq).bind
      fun refinement hrefinement => ?_
  obtain ⟨⟨hworking, hcentroids⟩, last, reason, hsound, hiterated, rfl⟩ := hrefinement
  exact (ensures_assignAll h hsound hpos hiterated hloaded.1 hworking hcentroids).bind
    fun assigned _ => ensures_conclude _ _ assigned

end Clustering

end SampledKmeans
