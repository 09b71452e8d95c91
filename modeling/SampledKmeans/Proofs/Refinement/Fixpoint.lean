import SampledKmeans.Proofs.Refinement.LastIteration
import SampledKmeans.Proofs.Refinement.Stopping

/-!
# When the labels repeat

Two consecutive iterations with the same labels make the same centroids: a
cluster with points is at their mean both times, and a centroid without points
stayed where it was.  Such a state is settled.  Every later iteration repeats it
and measures zero (`Settled.advance`), so that all the states of a longer run
are known (`Reaches.eq_repeated`).

A measurement of zero is below each limit above zero, and never above an earlier
measurement.  Hence a run that has settled ends at once or at the iteration
limit, depending on nothing but the change limit.
-/

namespace SampledKmeans

open Procedure

/-! ## Measuring zero -/

theorem countDifference_self (counts : List Nat) : countDifference counts counts = 0 := by
  have hzip : counts.zip counts = counts.map fun n => (n, n) := by
    induction counts with
    | nil => rfl
    | cons n counts ih => rw [List.zip_cons_cons, ih, List.map_cons]
  have hsum : counts.foldl (fun total n => total + ((n - n) + (n - n))) 0 = 0 :=
    List.foldl_fixed' (fun n => by omega) counts
  rw [countDifference, hzip, List.foldl_map, hsum]
  rfl

theorem changeFraction_self (counts : List Nat) (total : Nat) :
    changeFraction counts counts total = 0.0 := by
  have hcount : Float.ofNat 0 = 0.0 := rfl
  have hcapped : smaller 0.0 1.0 = 0.0 := by decide +kernel
  unfold changeFraction
  split_ifs with htotal
  · rfl
  · rw [countDifference_self, hcount, Number.zero_div_count (Nat.pos_of_ne_zero htotal), hcapped]

variable {σ ρ : Type} {store : PointStore σ ρ} {working : List Point}
  {previous progress next : Progress} {session before between after : Session σ ρ} {k : Nat}
  {mean : List SparseVector → Except Error SparseVector}

/-- The oldest of the last four measurements is not smaller than zero, so a
newest one of zero stops a run only for the change limit. -/
theorem Limits.convergence?_of_newest_zero (limits : Limits) (hsound : progress.Sound working k)
    (hlast : progress.changeTrace.getLast? = some 0.0) :
    limits.convergence? progress =
      if 0.0 < limits.changeLimit then some (.belowLimit limits.changeLimit) else none := by
  have hlength := hsound.length_changeTrace
  have hplateau : plateau? progress.changeTrace = none := by
    rcases plateau?_eq hlength with ⟨-, hnone⟩ | ⟨_, _, _, _, -, ⟨hi, oldest, newest, holdest,
      hnewest, hstalls⟩, -⟩
    · exact hnone
    · have hindex : progress.changeTrace.length - 1 = progress.iterations - 2 := by omega
      rw [List.getLast?_eq_getElem?, hindex, hnewest, Option.some.injEq] at hlast
      rw [hlast, Number.sub_zero] at hstalls
      have hbounds := (hsound.changeTrace_mem oldest (List.mem_of_getElem? holdest)).bounds
      exact absurd hstalls (Number.not_lt_of_le hbounds.1)
  simp only [convergence?, hplateau, hlast, Option.any_some, decide_eq_true_eq]

/-! ## Settled states -/

namespace Progress

/-- The state after a number of iterations that change nothing. -/
def repeated (progress : Progress) (times : Nat) : Progress :=
  { progress with
    iterations := progress.iterations + times
    changeTrace := progress.changeTrace ++ List.replicate times 0.0 }

theorem repeated_zero (progress : Progress) : progress.repeated 0 = progress := by
  simp [repeated]

theorem repeated_repeated (progress : Progress) (m n : Nat) :
    (progress.repeated m).repeated n = progress.repeated (m + n) := by
  simp only [repeated, Nat.add_assoc, List.append_assoc, List.replicate_append_replicate]

theorem getLast?_changeTrace_repeated (progress : Progress) {times : Nat} (h : 0 < times) :
    (progress.repeated times).changeTrace.getLast? = some 0.0 := by
  obtain ⟨n, rfl⟩ := Nat.exists_eq_succ_of_ne_zero (Nat.ne_of_gt h)
  rw [repeated, List.replicate_succ', ← List.append_assoc, List.getLast?_concat]

/-- Assigning the points to the centroids and moving the centroids changes
nothing. -/
structure Settled (store : PointStore σ ρ) (working : List Point) (progress : Progress) : Prop where
  labels_eq : store.labels? working progress.centroids = some progress.labels
  counts_eq : ∃ counts, progress.counts = some counts ∧
    labelCounts? progress.labels progress.centroids.length = some counts
  centroids_eq : ∀ session : Session σ ρ, ∃ after,
    (progress.centroids.mapM (store.recenter working progress.labels)).Answers session
      progress.centroids after
  dead_eq : progress.dead = deadIds progress.labels progress.centroids

theorem Settled.repeated (h : progress.Settled store working) (times : Nat) :
    (progress.repeated times).Settled store working :=
  ⟨h.labels_eq, h.counts_eq, h.centroids_eq, h.dead_eq⟩

/-- An iteration repeats a settled state and measures zero. -/
theorem Settled.advance (h : progress.Settled store working) (session : Session σ ρ) :
    ∃ after, (progress.advance store working).Answers session (progress.repeated 1) after := by
  obtain ⟨counts, hbefore, hcounts⟩ := h.counts_eq
  obtain ⟨after, hmeans⟩ := h.centroids_eq (progress.announced session)
  have htrace : (progress.record working.length progress.centroids progress.labels
      counts).changeTrace = progress.changeTrace ++ [0.0] := by
    rw [changeTrace_record_of_counted hbefore, changeFraction_self]
  have hrecord : progress.repeated 1 =
      progress.record working.length progress.centroids progress.labels counts :=
    (Progress.mk.injEq ..).mpr ⟨rfl, rfl, rfl, hbefore, htrace.symm, h.dead_eq⟩
  exact ⟨after, answers_advance_iff.mpr ⟨progress.labels, counts, progress.centroids, h.labels_eq,
    hcounts, hmeans, hrecord⟩⟩

theorem Settled.eq_repeated_of_advance (h : progress.Settled store working)
    (hanswers : (progress.advance store working).Answers session next after) :
    next = progress.repeated 1 := by
  obtain ⟨_, hrepeated⟩ := h.advance session
  exact Except.ok.inj (hanswers.outcome_eq.symm.trans hrepeated.outcome_eq)

theorem Settled.sound_repeated (h : progress.Settled store working)
    (hsound : progress.Sound working k) (hk : 0 < k) (hworking : working ≠ [])
    (session : Session σ ρ) (times : Nat) : (progress.repeated times).Sound working k := by
  induction times with
  | zero => rwa [repeated_zero]
  | succ times ih =>
      obtain ⟨_, hanswers⟩ := (h.repeated times).advance session
      rw [repeated_repeated] at hanswers
      exact ih.advance hk hworking hanswers

/-! ## The same labels twice -/

/-- A mean depends on the labels alone, and a centroid without points has been
where it is since the iteration before. -/
theorem Sound.centroids_eq_of_labels_eq (hsound : previous.Sound working k) (hk : 0 < k)
    (hworking : working ≠ []) (hmean : store.HasMean mean)
    (hfirst : (previous.advance store working).Answers session progress between)
    (hsecond : (progress.advance store working).Answers before next after)
    (hlabels : next.labels = progress.labels) : next.centroids = progress.centroids := by
  have hprogress := hsound.advance hk hworking hfirst
  have hnext := hprogress.advance hk hworking hsecond
  refine eq_of_getElem?_clusterLabels hnext.length_centroids hprogress.length_centroids ?_
  intro id hid
  obtain ⟨position, hposition, haveraged, -⟩ := hsound.getElem?_of_advance hmean hfirst hid
  obtain ⟨position', hposition', haveraged', hkept⟩ :=
    hprogress.getElem?_of_advance hmean hsecond hid
  by_cases hmem : id ∈ next.labels
  · have hsame := haveraged' hmem
    rw [hlabels, haveraged (hlabels ▸ hmem), Except.ok.injEq] at hsame
    rw [hposition, hposition', hsame]
  · rw [hposition', hkept hmem]

theorem Sound.settled_of_labels_eq (hsound : previous.Sound working k) (hk : 0 < k)
    (hworking : working ≠ []) (hmean : store.HasMean mean)
    (hfirst : (previous.advance store working).Answers session progress between)
    (hsecond : (progress.advance store working).Answers before next after)
    (hlabels : next.labels = progress.labels) : progress.Settled store working := by
  have hprogress := hsound.advance hk hworking hfirst
  have hassigned := hprogress.assigned_of_answers hfirst
  have hcentroids := hsound.centroids_eq_of_labels_eq hk hworking hmean hfirst hsecond hlabels
  obtain ⟨labels, counts, centroids, hassign, -, hmeans, rfl⟩ := answers_advance_iff.mp hsecond
  change labels = progress.labels at hlabels
  change centroids = progress.centroids at hcentroids
  subst hlabels hcentroids
  exact {
    labels_eq := hassign
    counts_eq := by
      refine ⟨_, hassigned.counts_eq, ?_⟩
      rw [hprogress.length_centroids]
      exact labelCounts?_eq_some hassigned.label_mem
    centroids_eq := fun other =>
      (Steady.mapM (hmean.steady_recenter working progress.labels) _).answers hmeans other
    dead_eq := by
      rw [hassigned.dead_eq, deadIds, hprogress.ids_eq] }

end Progress

/-! ## Settled runs -/

namespace Limits

variable {limits limits' : Limits} {stop stop' : StopSignal σ} {seeds : List Centroid}
  {session' after' : Session σ ρ} {later : Progress}

theorem Reaches.settled_of_labels_eq (hadmits : limits.Admits working seeds)
    (hmean : store.HasMean mean)
    (hprogress : limits.Reaches store stop working seeds session progress between)
    (hpos : 0 < progress.iterations)
    (hnext : limits.Reaches store stop working seeds session next after)
    (hcount : next.iterations = progress.iterations + 1) (hlabels : next.labels = progress.labels) :
    progress.Settled store working := by
  cases hnext with
  | start => exact absurd hcount (Nat.succ_ne_zero _).symm
  | @next middle _ before _ hmiddle _ hsecond =>
      have hcount' := Progress.iterations_of_answers hsecond
      -- The second of the two iterations started in the state that the first one made.
      obtain rfl := hprogress.eq_of_iterations_eq hmean hmiddle (by omega)
      cases hprogress with
      | start => exact absurd hpos (Nat.lt_irrefl 0)
      | next hprevious _ hfirst =>
          exact (hprevious.sound_of_admits hadmits).settled_of_labels_eq hadmits.seeds_pos
            hadmits.working_ne_nil hmean hfirst hsecond hlabels

/-- A run that has passed a settled state is in that state. -/
theorem Reaches.eq_repeated (hmean : store.HasMean mean)
    (h : limits.Reaches store stop working seeds session progress after)
    (hsettled : progress.Settled store working)
    (hlater : limits'.Reaches store stop' working seeds session' later after')
    (hle : progress.iterations ≤ later.iterations) :
    later = progress.repeated (later.iterations - progress.iterations) := by
  induction hlater with
  | start =>
      have hzero : progress.iterations = 0 := Nat.le_zero.mp hle
      rw [h.eq_start_of_iterations_eq_zero hzero]
      exact (Progress.repeated_zero _).symm
  | @next previous later _ _ hreaches hgoesOn hanswers ih =>
      have hcount := Progress.iterations_of_answers hanswers
      rcases Nat.lt_or_eq_of_le hle with hlt | heq
      · rw [ih (by omega)] at hanswers
        have htimes : previous.iterations - progress.iterations + 1 =
            later.iterations - progress.iterations := by omega
        calc later
          _ = (progress.repeated (previous.iterations - progress.iterations)).repeated 1 :=
            (hsettled.repeated _).eq_repeated_of_advance hanswers
          _ = progress.repeated (later.iterations - progress.iterations) := by
            rw [Progress.repeated_repeated, htimes]
      · have hsame := h.eq_of_iterations_eq hmean (hreaches.next hgoesOn hanswers) heq
        rw [hsame, Nat.sub_self, Progress.repeated_zero]

/-- Nothing but the iteration limit ends a run that repeats its state. -/
theorem Reaches.repeated (h : limits.Reaches store .never working seeds session progress after)
    (hsettled : progress.Settled store working)
    (hgoesOn : ∀ times, limits.convergence? (progress.repeated times) = none) (times : Nat)
    (hle : progress.iterations + times ≤ limits.maxIterations) :
    ∃ later, limits.Reaches store .never working seeds session (progress.repeated times) later := by
  induction times with
  | zero => exact ⟨after, (Progress.repeated_zero progress).symm ▸ h⟩
  | succ times ih =>
      obtain ⟨between, hreaches⟩ := ih (by omega)
      have hrule : limits.rule? (progress.repeated times) = none :=
        rule?_eq_none_iff.mpr ⟨hgoesOn times, Nat.lt_of_succ_le hle⟩
      have hending : limits.ending? .never (progress.repeated times) between = none :=
        ending?_eq_none_iff.mpr ⟨hrule, fun _ => rfl⟩
      obtain ⟨later, hanswers⟩ := (hsettled.repeated times).advance between
      rw [Progress.repeated_repeated] at hanswers
      exact ⟨later, hreaches.next hending hanswers⟩

/-- Let two consecutive iterations of a run that nobody stops assign the same
labels.  Then the second one changes nothing and measures zero, and so does
every later iteration of every run over the same points and seeds.  The run ends
at once when the change limit is above zero, and at the iteration limit, in the
same state, when it is not. -/
theorem refine_settles (hadmits : limits.Admits working seeds) (hmean : store.HasMean mean)
    (hprogress : limits.Reaches store .never working seeds session progress between)
    (hpos : 0 < progress.iterations)
    (hnext : limits.Reaches store .never working seeds session next after)
    (hcount : next.iterations = progress.iterations + 1) (hlabels : next.labels = progress.labels) :
    (next.centroids = progress.centroids ∧ next.dead = progress.dead ∧
      next.changeTrace = progress.changeTrace ++ [0.0]) ∧
    (∀ (limits' : Limits) (stop' : StopSignal σ) (session' after' : Session σ ρ) (later : Progress),
      limits'.Reaches store stop' working seeds session' later after' →
      next.iterations ≤ later.iterations →
        later.labels = progress.labels ∧ later.centroids = progress.centroids ∧
          later.dead = progress.dead ∧
          ∃ again, (later.advance store working).Answers after' (later.repeated 1) again) ∧
    (0.0 < limits.changeLimit →
      (limits.refine store .never working seeds).outcome session =
        .ok (next.finish (.belowLimit limits.changeLimit))) ∧
    (¬ 0.0 < limits.changeLimit → ∃ result,
      (limits.refine store .never working seeds).outcome session = .ok result ∧
        result.iterations = limits.maxIterations ∧
        result.reason = .iterationLimit limits.maxIterations ∧
        result.labels = progress.labels ∧ result.centroids = progress.centroids ∧
        result.dead = progress.dead) := by
  have hsettled := hprogress.settled_of_labels_eq hadmits hmean hpos hnext hcount hlabels
  obtain rfl : next = progress.repeated 1 := by
    have hrepeated := hprogress.eq_repeated hmean hsettled hnext (by omega)
    rwa [hcount, Nat.add_sub_cancel_left] at hrepeated
  have hconvergence : ∀ times, limits.convergence? ((progress.repeated 1).repeated times) =
      if 0.0 < limits.changeLimit then some (.belowLimit limits.changeLimit) else none := by
    intro times
    rw [Progress.repeated_repeated]
    exact limits.convergence?_of_newest_zero
      (hsettled.sound_repeated (hprogress.sound_of_admits hadmits) hadmits.seeds_pos
        hadmits.working_ne_nil session _)
      (progress.getLast?_changeTrace_repeated (by omega))
  refine ⟨⟨rfl, rfl, rfl⟩, ?_, fun hlimit => ?_, fun hlimit => ?_⟩
  · intro limits' stop' session' after' later hlater hle
    have hlater := hprogress.eq_repeated hmean hsettled hlater (by omega)
    rw [hlater]
    exact ⟨rfl, rfl, rfl, (hsettled.repeated _).advance after'⟩
  · have hbelow := hconvergence 0
    rw [Progress.repeated_zero, if_pos hlimit] at hbelow
    exact hnext.outcome_refine_of_ending? hadmits
      (ending?_eq_some_iff.mpr (.inl (rule?_eq_some_iff.mpr (.inl hbelow))))
  · have hgoesOn := fun times => (hconvergence times).trans (if_neg hlimit)
    have hle := hnext.iterations_le
    obtain ⟨_, hlast⟩ := hnext.repeated (hsettled.repeated 1) hgoesOn
      (limits.maxIterations - (progress.repeated 1).iterations) (by omega)
    have hcap : ((progress.repeated 1).repeated
        (limits.maxIterations - (progress.repeated 1).iterations)).iterations =
          limits.maxIterations := Nat.add_sub_cancel' hle
    have hrule := rule?_eq_some_iff.mpr (.inr ⟨hgoesOn _, hcap.ge, rfl⟩)
    exact ⟨_, hlast.outcome_refine_of_ending? hadmits (ending?_eq_some_iff.mpr (.inl hrule)), hcap,
      rfl, rfl, rfl, rfl⟩

/-- Without a change limit, two pairs of points that are found in the second
iteration are found again in the third one and until the fifth and last. -/
theorem refine_settles_onLine :
    let store : PointStore Unit SplitMix := Population.empty.store
    let session : Session Unit SplitMix := { store := (), random := {} }
    let limits : Limits := { maxIterations := 5, changeLimit := 0.0 }
    let working := pointsOnLine [1.0, 2.0, 9.0, 10.0]
    let seeds := centroidsOnLine [1.0, 2.0]
    store.HasMean meanOf ∧ ∃ progress next between after result,
      limits.Reaches store .never working seeds session progress between ∧
        progress.iterations = 2 ∧ progress.labels = [1, 1, 2, 2] ∧
        limits.Reaches store .never working seeds session next after ∧
        next.iterations = 3 ∧ next.labels = [1, 1, 2, 2] ∧
        next.changeTrace = progress.changeTrace ++ [0.0] ∧
        (limits.refine store .never working seeds).outcome session = .ok result ∧
        result.iterations = 5 ∧ result.reason = .iterationLimit 5 ∧
        result.centroids = progress.centroids := by
  intro store session limits working seeds
  have hmean : store.HasMean meanOf := fun _ _ => rfl
  have hadmits : limits.Admits working seeds :=
    ⟨List.cons_ne_nil _ _, List.cons_ne_nil _ _, by decide, rfl⟩
  let first : Progress := {
    iterations := 1, centroids := centroidsOnLine [1.0, 7.0], labels := [1, 2, 2, 2],
    counts := some [1, 3], changeTrace := [], dead := [] }
  let second : Progress := {
    iterations := 2, centroids := centroidsOnLine [1.5, 9.5], labels := [1, 1, 2, 2],
    counts := some [2, 2], changeTrace := [0.5], dead := [] }
  let third : Progress := { second with iterations := 3, changeTrace := [0.5, 0.0] }
  have hfirst : limits.Reaches store .never working seeds session first _ :=
    .next .start (by decide +kernel) (answers_of_outcome_eq (by decide +kernel))
  have hsecond : limits.Reaches store .never working seeds session second _ :=
    .next hfirst (by decide +kernel) (answers_of_outcome_eq (by decide +kernel))
  have hthird : limits.Reaches store .never working seeds session third _ :=
    .next hsecond (by decide +kernel) (answers_of_outcome_eq (by decide +kernel))
  obtain ⟨⟨-, -, htrace⟩, -, -, hlast⟩ :=
    refine_settles hadmits hmean hsecond (by decide) hthird rfl rfl
  obtain ⟨result, hok, hiterations, hreason, -, hcentroids, -⟩ := hlast (by decide +kernel)
  exact ⟨hmean, second, third, _, _, result, hsecond, rfl, rfl, hthird, rfl, rfl, htrace, hok,
    hiterations, hreason, hcentroids⟩

end Limits

end SampledKmeans
