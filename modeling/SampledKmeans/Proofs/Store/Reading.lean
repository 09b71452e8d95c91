import SampledKmeans.Proofs.Store.Serves

/-!
# Readers of a scan

A scan is read by taking its items one after another, by measuring each point as
it comes, or in blocks.  Whichever way it is read, the first faulty item ends the
reading and shows, unless a distance from a point before it is not defined
(`reads_collect`, `reads_mapM`, `reads_readBlocks`).
-/

namespace SampledKmeans

open Procedure

variable {σ ρ α β : Type} {store : PointStore σ ρ} {limit : Option Duration}
  {centroids : List Centroid} {session : Session σ ρ}

namespace PointStore

/-! ## Stopping at an item -/

section Stopping

variable {points block : List Point} {item : Reply Point} {error : Error}
  {procedure : Procedure σ ρ α} {next : α → Procedure σ ρ β}

theorem stops_check (h : item.outcome = .error error) {next : Point → Procedure σ ρ α} :
    store.Stops points error (check item.outcome >>= next) session :=
  ⟨_, _, fails_bind_iff.mpr (.inl (fails_check_iff.mpr ⟨error, h, rfl, rfl⟩)), .inl rfl⟩

theorem Stops.of_check {point : Point} (h : item.outcome = .ok point)
    {next : Point → Procedure σ ρ α} (hnext : store.Stops points error (next point) session) :
    store.Stops points error (check item.outcome >>= next) session := by
  rw [h]
  exact hnext

/-- What measures the points of a block may fail for that. -/
theorem stops_bind (h : Ensures (store.Unmeasured block) procedure fun _ => True)
    (hnext : ∀ a between, store.Stops points error (next a) between) :
    store.Stops (block ++ points) error (procedure >>= next) session := by
  rcases answers_or_fails procedure session with ⟨a, between, hanswers⟩ | ⟨failure, after, hfails⟩
  · obtain ⟨failure, after, hrest, hshown⟩ := hnext a between
    refine ⟨failure, after, fails_bind_iff.mpr (.inr ⟨a, between, hanswers, hrest⟩), ?_⟩
    exact hshown.imp_right fun hunmeasured => hunmeasured.mono (List.subset_append_right _ _)
  · exact ⟨failure, after, fails_bind_iff.mpr (.inl hfails),
      .inr ((h.failure hfails).mono (List.subset_append_left _ _))⟩

end Stopping

/-! ## Item by item -/

theorem reads_collect : store.Reads fun items => check (collect items) := by
  intro done points item error session hdone hitem
  have hcollect : collect (done ++ [item]) = .error error := by
    induction hdone with
    | nil =>
        rw [List.nil_append, collect, hitem]
        rfl
    | cons hpoint _ ih =>
        rw [List.cons_append, collect, hpoint, ih]
        rfl
  exact ⟨_, _, fails_check_iff.mpr ⟨error, hcollect, rfl, rfl⟩, .inl rfl⟩

/-- Points that are measured one after another. -/
theorem reads_mapM {measure : Point → Procedure σ ρ α}
    (h : ∀ point, Ensures (store.Unmeasured [point]) (measure point) fun _ => True) :
    store.Reads fun items => items.mapM fun item => check item.outcome >>= measure := by
  intro done points item error session hdone hitem
  dsimp only
  induction hdone generalizing session with
  | nil =>
      rw [List.nil_append, List.mapM_cons]
      exact (stops_check hitem).bind _
  | @cons _ point _ points hpoint _ ih =>
      rw [List.cons_append, List.mapM_cons, hpoint]
      change store.Stops ([point] ++ points) error (measure point >>= _) session
      exact stops_bind (h point) fun _ between => (ih between).bind _

end PointStore

/-! ## In blocks -/

namespace Expansion

/-- Reading in blocks stops at the first item that is an error, unless a point of a
block before it cannot be assigned. -/
theorem stops_readBlocks {done : List (Reply Point)} {points : List Point} {item : Reply Point}
    {error : Error}
    (hdone : List.Forall₂ (fun (earlier : Reply Point) point => earlier.outcome = .ok point)
      done points)
    (hitem : item.outcome = .error error) (pending : List Point) (room : Nat) (state : Draft)
    (session : Session σ ρ) :
    store.Stops (pending.reverse ++ points) error
      (readBlocks store centroids (done ++ [item]) pending room state) session := by
  have hassign : ∀ block state, Ensures (store.Unmeasured block)
      (assignBlock store centroids state block) fun _ => True := fun block state =>
    ensures_assignBlock (fun p hp c _ hnone => ⟨rfl, p, hp, c.position, hnone⟩) state
  -- A full block is assigned before the next item is asked for, so that a point
  -- of it can keep even the first item that is left from showing.
  induction hdone generalizing pending room state session with
  | nil =>
      cases room with
      | zero =>
          exact PointStore.stops_bind (hassign _ state) fun _ _ => PointStore.stops_check hitem
      | succ room => exact PointStore.stops_check hitem
  | @cons earlier point done points hpoint _ ih =>
      cases room with
      | zero =>
          exact PointStore.stops_bind (hassign _ state) fun draft between =>
            .of_check hpoint (ih [point] (blockSize - 1) draft between)
      | succ room =>
          have hrest := ih (point :: pending) room state session
          rw [List.reverse_cons, List.append_assoc] at hrest
          exact .of_check hpoint hrest

theorem reads_readBlocks (state : Draft) :
    store.Reads fun items => readBlocks store centroids items [] blockSize state :=
  fun _ _ _ _ session hdone hitem =>
    stops_readBlocks hdone hitem [] blockSize state session

variable (store limit) in
theorem quiet_readBlocks (centroids : List Centroid) (items : List (Reply Point))
    (pending : List Point) (room : Nat) (state : Draft) :
    (readBlocks (store.recorded.timed limit) centroids items pending room state).Quiet
      (readBlocks (store.timed limit) centroids items pending room state) :=
  quiet_iff_lifts.mpr fun _ =>
    lifts_readBlocks (store.metric_recorded_timed limit) centroids items pending room state

end Expansion

end SampledKmeans
