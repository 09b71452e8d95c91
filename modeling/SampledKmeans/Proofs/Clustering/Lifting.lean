import SampledKmeans.Catalog
import SampledKmeans.Proofs.Clustering.Endings
import SampledKmeans.Proofs.Store.Lifting

/-!
# Clustering in a larger state

A clustering reads and changes a state only through the calls of its store.  If these
calls do the same within a larger state, and touch nothing of it but their own part,
then so does the clustering (`Clustering.lifts_fit`): it answers or fails as on the
store alone, and leaves the rest of the state as it was.

The proof goes through every procedure that makes a call, from the single calls to
the whole, in the order in which they build on each other.
-/

namespace SampledKmeans

open Procedure

variable {σ τ ρ : Type} {embed : σ → τ}

/-! ## Stores -/

/-- The calls of the lifted store do in an embedded state what those of the other one
do in the state itself, and both have the same metric. -/
structure PointStore.Lifts (embed : σ → τ) (store : PointStore σ ρ) (lifted : PointStore τ ρ) :
    Prop where
  sample : ∀ n source state, lifted.sample n source (embed state) =
    ((store.sample n source state).1, (store.sample n source state).2.1,
      embed (store.sample n source state).2.2)
  scan : ∀ state, lifted.scan (embed state) = ((store.scan state).1, embed (store.scan state).2)
  count : ∀ state, lifted.count (embed state) = ((store.count state).1, embed (store.count state).2)
  metric : lifted.metric = store.metric
  mean : ∀ positions state, lifted.mean positions (embed state) =
    ((store.mean positions state).1, embed (store.mean positions state).2)

/-- A store that sees a part of a larger state lifts the store of that part. -/
theorem PointStore.lifts_focus {get : τ → σ} {put : σ → τ → τ} (store : PointStore σ ρ)
    (hget : ∀ state, get (embed state) = state)
    (hput : ∀ state earlier, put state (embed earlier) = embed state) :
    PointStore.Lifts embed store (store.focus get put) where
  sample n source state := by simp [focus, hget, hput]
  scan state := by simp [focus, hget, hput]
  count state := by simp [focus, hget, hput]
  metric := rfl
  mean positions state := by simp [focus, hget, hput]

variable {store : PointStore σ ρ} {lifted : PointStore τ ρ} {centroids : List Centroid}

namespace PointStore.Lifts

theorem timed (h : PointStore.Lifts embed store lifted) (limit : Option Duration) :
    PointStore.Lifts embed (store.timed limit) (lifted.timed limit) where
  sample n source state := by simp [PointStore.timed, h.sample n source state]
  scan state := by simp [PointStore.timed, h.scan state]
  count state := by simp [PointStore.timed, h.count state]
  metric := h.metric
  mean positions state := by simp [PointStore.timed, h.mean positions state]

variable (h : PointStore.Lifts embed store lifted)
include h

theorem askCount : Procedure.Lifts embed store.askCount lifted.askCount :=
  lifts_call h.count

theorem drawSample (n : Nat) :
    Procedure.Lifts embed (store.drawSample n) (lifted.drawSample n) :=
  lifts_callRandom (h.sample n)

theorem openScan : Procedure.Lifts embed store.openScan lifted.openScan :=
  lifts_call h.scan

theorem scanAll : Procedure.Lifts embed store.scanAll lifted.scanAll :=
  h.openScan.bind fun items => lifts_check (collect items)

theorem askMean (positions : List SparseVector) :
    Procedure.Lifts embed (store.askMean positions) (lifted.askMean positions) :=
  lifts_call (h.mean positions)

theorem expand (withFit : Bool) (centroids : List Centroid) :
    Procedure.Lifts embed (store.expand withFit centroids) (lifted.expand withFit centroids) := by
  unfold PointStore.expand
  apply Procedure.Lifts.ite
  · exact lifts_fail _
  · apply h.openScan.bind
    intro items
    exact (Expansion.lifts_readBlocks h.metric centroids items [] blockSize {}).bind fun draft =>
      lifts_pure _

/-! ### Refinement -/

theorem recenter (working : List Point) (labels : List Nat) (c : Centroid) :
    Procedure.Lifts embed (store.recenter working labels c)
      (lifted.recenter working labels c) := by
  unfold PointStore.recenter
  cases membersOf working labels c.id with
  | nil => exact lifts_pure c
  | cons member members =>
      exact (h.askMean (member :: members)).bind fun position => lifts_pure { c with position }

theorem advance (working : List Point) (progress : Progress) :
    Procedure.Lifts embed (progress.advance store working) (progress.advance lifted working) := by
  rw [Progress.advance_eq, Progress.advance_eq]
  apply (lifts_report _).bind
  intro _
  apply (PointStore.lifts_assign h.metric working progress.centroids).bind
  intro labels
  apply (lifts_expect _).bind
  intro counts
  apply Procedure.Lifts.bind
  · exact (Procedure.Lifts.mapM (h.recenter working labels) progress.centroids).checkpointed _
  · intro centroids
    exact lifts_pure _

theorem iterate (limits : Limits) (stop : StopSignal τ) (working : List Point)
    (remaining : Nat) (progress : Progress) :
    Procedure.Lifts embed
      (limits.iterate store (fun n state => stop n (embed state)) working remaining progress)
      (limits.iterate lifted stop working remaining progress) := by
  induction remaining generalizing progress with
  | zero => exact lifts_pure _
  | succ remaining ih =>
      rw [Limits.iterate, Limits.iterate, Limits.iterateWith, Limits.iterateWith]
      apply Procedure.Lifts.bind
      · exact fun _ => rfl
      · intro requested
        apply Procedure.Lifts.ite
        · exact lifts_pure _
        · apply (h.advance working progress).bind
          intro progress
          cases stopReason? progress.iterations progress.changeTrace limits.changeLimit
              limits.maxIterations with
          | some reason => exact lifts_pure _
          | none => exact ih progress

theorem refine (limits : Limits) (stop : StopSignal τ) (working : List Point)
    (seeds : List Centroid) :
    Procedure.Lifts embed
      (limits.refine store (fun n state => stop n (embed state)) working seeds)
      (limits.refine lifted stop working seeds) := by
  unfold Limits.refine Limits.refineWith
  apply Procedure.Lifts.ite
  · exact lifts_fail _
  apply Procedure.Lifts.ite
  · exact lifts_fail _
  apply Procedure.Lifts.ite
  · exact lifts_fail _
  apply (h.iterate limits stop working limits.maxIterations (Progress.start seeds)).bind
  intro ended
  apply (lifts_report _).bind
  intro _
  apply Procedure.Lifts.ite
  · exact (lifts_report _).bind fun _ => lifts_pure _
  · exact lifts_pure _

/-! ### Seeding -/

theorem farthest? (centroids : List Centroid) :
    Procedure.Lifts embed (SeedPlan.farthest? store centroids)
      (SeedPlan.farthest? lifted centroids) := by
  unfold SeedPlan.farthest?
  apply h.openScan.bind
  intro items
  apply Procedure.Lifts.bind
  · apply Procedure.Lifts.mapM
    intro item
    apply (lifts_check item.outcome).bind
    intro point
    exact (PointStore.lifts_minDistance h.metric point.position centroids).bind fun distance =>
      lifts_pure (point, distance)
  · intro measured
    exact lifts_pure (pickFarthest? measured)

variable [RandomSource ρ]

theorem pick (plan : SeedPlan) (centroids : List Centroid) (points : List Point) :
    Procedure.Lifts embed (plan.pick store centroids points)
      (plan.pick lifted centroids points) := by
  refine Procedure.Lifts.bind (Procedure.Lifts.mapM (fun point => ?_) points) fun candidates =>
    lifts_pure (pickWeighted? plan.exponent candidates)
  apply (lifts_draw RandomSource.unit).bind
  intro draw
  exact (PointStore.lifts_minDistance h.metric point.position centroids).bind fun distance =>
    lifts_pure (⟨point, distance, draw⟩ : Candidate)

theorem next? (plan : SeedPlan) (pool : Nat) (centroids : List Centroid) :
    Procedure.Lifts embed (plan.next? store pool centroids)
      (plan.next? lifted pool centroids) := by
  unfold SeedPlan.next?
  apply (h.drawSample pool).bind
  intro points
  apply (h.pick plan centroids points).bind
  intro chosen
  cases chosen with
  | some point => exact lifts_pure (some point)
  | none => exact h.farthest? centroids

theorem grow (plan : SeedPlan) (pool remaining : Nat) (centroids : List Centroid) :
    Procedure.Lifts embed (plan.grow store pool remaining centroids)
      (plan.grow lifted pool remaining centroids) := by
  induction remaining generalizing centroids with
  | zero => exact lifts_pure centroids
  | succ remaining ih =>
      rw [SeedPlan.grow, SeedPlan.grow]
      apply (h.next? plan pool centroids).bind
      intro chosen
      cases chosen with
      | some point => exact ih _
      | none => exact (lifts_report _).bind fun _ => lifts_pure centroids

theorem seed (plan : SeedPlan) :
    Procedure.Lifts embed (plan.seed store) (plan.seed lifted) := by
  unfold SeedPlan.seed
  apply (lifts_check (coverage plan.k plan.confidence)).bind
  intro pool
  apply (h.drawSample 1).bind
  intro points
  cases points with
  | nil => exact lifts_fail .emptyInput
  | cons first _ =>
      apply (lifts_reserve plan.k).bind
      intro _
      exact (h.grow plan (max pool 1) (plan.k - 1) _).bind fun centroids => lifts_pure _

end PointStore.Lifts

/-! ## The stages of a clustering -/

/-- The clustering of the part of a state that is embedded: the caller asks to stop
as in the whole state. -/
def Clustering.comap (embed : σ → τ) (clustering : Clustering τ) : Clustering σ where
  k := clustering.k
  settings := clustering.settings
  withFit := clustering.withFit
  stop := fun iterations state => clustering.stop iterations (embed state)

namespace Clustering

variable (clustering : Clustering τ)

theorem lifts_accept (seeding : Seeding) :
    Procedure.Lifts embed ((clustering.comap embed).accept seeding : Procedure σ ρ Unit)
      (clustering.accept seeding) := by
  unfold accept
  apply Procedure.Lifts.ite
  · apply Procedure.Lifts.ite
    · exact (lifts_check seeding.ensureComplete).bind fun _ => lifts_report _
    · exact lifts_report _
  · exact lifts_pure ()

theorem lifts_conclude (population : Nat) (loaded : List Point × Bool) (refinement : Refinement)
    (assigned : List Assignment × Option Float) :
    Procedure.Lifts embed
      ((clustering.comap embed).conclude population loaded refinement assigned :
        Procedure σ ρ Clustered)
      (clustering.conclude population loaded refinement assigned) := by
  obtain ⟨assignments, _ | fit⟩ := assigned
  · exact lifts_pure _
  · exact (lifts_report _).bind fun _ => lifts_pure _

variable (h : PointStore.Lifts embed store lifted)
include h

theorem lifts_validate :
    Procedure.Lifts embed ((clustering.comap embed).validate store)
      (clustering.validate lifted) := by
  rw [validate_eq, validate_eq]
  apply (lifts_check _).bind
  intro _
  apply h.askCount.bind
  intro population
  exact lifts_check _

theorem lifts_workingSet (population : Nat) :
    Procedure.Lifts embed ((clustering.comap embed).workingSet store population)
      (clustering.workingSet lifted population) := by
  unfold workingSet
  apply (lifts_check _).bind
  intro size
  apply Procedure.Lifts.ite
  · apply (lifts_report _).bind
    intro _
    exact (h.drawSample size).bind fun points => lifts_pure (points, true)
  · apply (lifts_report _).bind
    intro _
    exact h.scanAll.bind fun points => lifts_pure (points, false)

theorem lifts_labelAll (working : List Point) (refinement : Refinement) :
    Procedure.Lifts embed ((clustering.comap embed).labelAll store working refinement)
      (clustering.labelAll lifted working refinement) := by
  unfold labelAll
  apply Procedure.Lifts.ite
  · exact (PointStore.lifts_goodnessOfFit h.metric _ _).bind fun fit => lifts_pure _
  · exact lifts_pure _

theorem lifts_assignAll (loaded : List Point × Bool) (refinement : Refinement) :
    Procedure.Lifts embed ((clustering.comap embed).assignAll store loaded refinement)
      (clustering.assignAll lifted loaded refinement) := by
  unfold assignAll
  apply Procedure.Lifts.ite
  · unfold expandSample
    apply (lifts_report _).bind
    intro _
    exact ((h.expand clustering.withFit refinement.centroids).checkpointed _).bind
      fun expansion => lifts_pure _
  · exact clustering.lifts_labelAll h loaded.1 refinement

/-! ## The whole clustering -/

/-- A clustering does in a larger state what it does on the store alone. -/
theorem lifts_fit [RandomSource ρ] :
    Procedure.Lifts embed ((clustering.comap embed).fit store) (clustering.fit lifted) := by
  have htimed := h.timed clustering.settings.timeout
  unfold fit
  rw [fitUntimed_eq, fitUntimed_eq]
  apply (clustering.lifts_validate htimed).bind
  intro population
  apply Procedure.Lifts.bind
  · apply (lifts_report _).bind
    intro _
    exact htimed.seed clustering.seedPlan
  intro seeding
  apply (clustering.lifts_accept seeding).bind
  intro _
  apply (clustering.lifts_workingSet htimed population).bind
  intro loaded
  apply (htimed.refine clustering.limits clustering.stop loaded.1 seeding.centroids).bind
  intro refinement
  apply (clustering.lifts_assignAll htimed loaded refinement).bind
  intro assigned
  exact clustering.lifts_conclude population loaded refinement assigned

end Clustering

end SampledKmeans
