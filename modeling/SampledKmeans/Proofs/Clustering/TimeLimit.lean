import SampledKmeans.Proofs.Clustering.Endings
import SampledKmeans.Proofs.Store.Fault

/-!
# Time limits of the settings

Settings keep a time limit as a count of milliseconds.  A duration that is such a count
comes back as it is, and every other one comes back shorter: what is left of a
millisecond is dropped, and so are the multiples of `2 ^ 64` milliseconds.

A call that takes no longer than the limit that was set is hence sure to be accepted
exactly when the limit is a count of milliseconds, and then a clustering of a store that
is `Prompt` is the one without a time limit (`Clustering.fit_withTimeout`).
-/

namespace SampledKmeans

open Procedure

variable {σ ρ α : Type}

/-! ## The limit that is kept -/

namespace Duration

/-- The duration is a count of milliseconds. -/
def IsStorable (d : Duration) : Prop :=
  10 ^ 6 ∣ d.nanoseconds ∧ d.milliseconds ≤ maxCount

/-- What settings keep of the duration. -/
def stored (d : Duration) : Duration :=
  ofMilliseconds (wrapCount d.milliseconds)

variable {d : Duration}

theorem stored_of_isStorable (h : d.IsStorable) : d.stored = d := by
  obtain ⟨hdvd, hcount⟩ := h
  rw [stored, wrapCount_of_le hcount]
  exact congrArg Duration.mk (Nat.div_mul_cancel hdvd)

theorem stored_lt_of_not_isStorable (h : ¬ d.IsStorable) : d.stored < d := by
  have hwhole : d.milliseconds * 10 ^ 6 ≤ d.nanoseconds := Nat.div_mul_le_self _ _
  by_cases hcount : d.milliseconds ≤ maxCount
  · have hne : d.milliseconds * 10 ^ 6 ≠ d.nanoseconds := fun heq =>
      h ⟨⟨d.milliseconds, by rw [← heq, Nat.mul_comm]⟩, hcount⟩
    change wrapCount d.milliseconds * 10 ^ 6 < d.nanoseconds
    rw [wrapCount_of_le hcount]
    omega
  · have hwrapped : wrapCount d.milliseconds < d.milliseconds :=
      Nat.lt_of_lt_of_le (Nat.mod_lt _ (Nat.succ_pos _)) (Nat.lt_of_not_le hcount)
    change wrapCount d.milliseconds * 10 ^ 6 < d.nanoseconds
    omega

end Duration

theorem Settings.timeout_withTimeout (settings : Settings) (d : Duration) :
    (settings.withTimeout d).timeout = some d.stored :=
  congrArg (some ∘ Duration.ofMilliseconds) UInt64.toNat_ofNat'

/-! ## Calls under the limit -/

namespace Reply

variable {operation : String} {allowed : Duration} {reply : Reply α}

theorem within_of_not_late (h : ¬ allowed < reply.elapsed) :
    reply.within operation (some allowed) = reply := by
  obtain ⟨outcome, elapsed, events⟩ := reply
  cases outcome with
  | error error => rfl
  | ok a =>
      change Reply.mk (if allowed < elapsed then _ else Except.ok a) elapsed events = _
      rw [if_neg h]

theorem outcome_within_of_late {a : α} (h : reply.outcome = .ok a)
    (hlate : allowed < reply.elapsed) :
    (reply.within operation (some allowed)).outcome = .error (overrun operation allowed) := by
  unfold within
  rw [h]
  exact if_pos hlate

theorem within_none (operation : String) (reply : Reply α) :
    reply.within operation none = reply := by
  obtain ⟨outcome, elapsed, events⟩ := reply
  cases outcome <;> rfl

theorem guarded_of_not_late (h : ¬ allowed < reply.elapsed) :
    reply.guarded operation (some allowed) = reply.guarded operation none := by
  rw [guarded, guarded, within_none]
  exact within_of_not_late h

theorem guardedMean_of_not_late {reply : Reply SparseVector} (h : ¬ allowed < reply.elapsed) :
    reply.guardedMean (some allowed) = reply.guardedMean none := by
  unfold guardedMean
  split
  · rfl
  · exact guarded_of_not_late h

theorem untilFailure_of_not_late {items : List (Reply Point)}
    (h : ∀ item ∈ items, ¬ allowed < item.elapsed) :
    untilFailure (some allowed) items = untilFailure none items := by
  induction items with
  | nil => rfl
  | cons item rest ih =>
      obtain ⟨hitem, hrest⟩ := List.forall_mem_cons.mp h
      rw [untilFailure, untilFailure, guarded_of_not_late hitem, ih hrest]

end Reply

namespace PointStore

/-- No call takes longer than the duration, and no item of a scan does. -/
structure Prompt (store : PointStore σ ρ) (d : Duration) : Prop where
  sample : ∀ n source state, ¬ d < (store.sample n source state).1.elapsed
  scan : ∀ state, ¬ d < (store.scan state).1.elapsed
  item : ∀ state items, (store.scan state).1.outcome = .ok items →
    ∀ item ∈ items, ¬ d < item.elapsed
  count : ∀ state, ¬ d < (store.count state).1.elapsed
  mean : ∀ positions state, ¬ d < (store.mean positions state).1.elapsed

theorem Prompt.timed_scan_eq {store : PointStore σ ρ} {d : Duration} (h : store.Prompt d)
    (state : σ) : (store.timed (some d)).scan state = (store.timed none).scan state := by
  have hopen : (store.scan state).1.guarded "scan" (some d) =
      (store.scan state).1.guarded "scan" none :=
    Reply.guarded_of_not_late (h.scan state)
  have hitems : ((store.scan state).1.guarded "scan" none).outcome.map
      (Reply.untilFailure (some d)) =
        ((store.scan state).1.guarded "scan" none).outcome.map (Reply.untilFailure none) := by
    cases houtcome : ((store.scan state).1.guarded "scan" none).outcome with
    | error error => rfl
    | ok items =>
        have hprompt := h.item state items (Reply.outcome_of_guarded houtcome)
        exact congrArg Except.ok (Reply.untilFailure_of_not_late hprompt)
  change (Reply.mk (((store.scan state).1.guarded "scan" (some d)).outcome.map _) _ _, _) = _
  rw [hopen, hitems]
  rfl

/-- A limit that no call exceeds makes no difference. -/
theorem Prompt.timed_eq {store : PointStore σ ρ} {d : Duration} (h : store.Prompt d) :
    store.timed (some d) = store.timed none := by
  have hsample : (store.timed (some d)).sample = (store.timed none).sample := by
    funext n source state
    exact congrArg (·, (store.sample n source state).2)
      (Reply.guarded_of_not_late (h.sample n source state))
  have hscan : (store.timed (some d)).scan = (store.timed none).scan := funext h.timed_scan_eq
  have hcount : (store.timed (some d)).count = (store.timed none).count := by
    funext state
    exact congrArg (·, (store.count state).2) (Reply.guarded_of_not_late (h.count state))
  have hmean : (store.timed (some d)).mean = (store.timed none).mean := by
    funext positions state
    exact congrArg (·, (store.mean positions state).2)
      (Reply.guardedMean_of_not_late (h.mean positions state))
  calc store.timed (some d)
      = ⟨(store.timed (some d)).sample, (store.timed (some d)).scan,
          (store.timed (some d)).count, store.metric, (store.timed (some d)).mean⟩ := rfl
    _ = store.timed none := by rw [hsample, hscan, hcount, hmean]; rfl

theorem prompt_population [Sampler ρ] (population : Population) {d : Duration}
    (hpos : 0 < d.nanoseconds) : (population.store : PointStore σ ρ).Prompt d where
  sample _ _ _ := Nat.not_lt_of_le hpos
  scan _ := Nat.not_lt_of_le hpos
  item _ items hitems item hitem := by
    obtain rfl := Except.ok.inj hitems
    obtain ⟨point, -, rfl⟩ := List.mem_map.mp hitem
    exact Nat.not_lt_of_le hpos
  count _ := Nat.not_lt_of_le hpos
  mean _ _ := Nat.not_lt_of_le hpos

end PointStore

/-! ## Clusterings -/

namespace Clustering

/-- The time limit is read by no stage. -/
theorem fitUntimed_withTimeout [RandomSource ρ] (clustering : Clustering σ)
    (store : PointStore σ ρ) (timeoutMs : Option UInt64) :
    ({ clustering with settings := { clustering.settings with timeoutMs } } :
      Clustering σ).fitUntimed store = clustering.fitUntimed store :=
  rfl

/-- Every call that takes no longer than a duration is accepted under the limit which the
settings keep for it exactly if it is a count of milliseconds.  If it is, then clustering
a store whose calls take no longer is as without a limit. -/
theorem fit_withTimeout [RandomSource ρ] (clustering : Clustering σ) (store : PointStore σ ρ)
    (d : Duration) :
    ((∀ (α : Type) (operation : String) (reply : Reply α), ¬ d < reply.elapsed →
        reply.within operation (clustering.settings.withTimeout d).timeout = reply) ↔
      d.IsStorable) ∧
    (d.IsStorable → store.Prompt d →
      ({ clustering with settings := clustering.settings.withTimeout d } :
          Clustering σ).fit store =
        ({ clustering with settings := { clustering.settings with timeoutMs := none } } :
          Clustering σ).fit store) := by
  rw [Settings.timeout_withTimeout]
  refine ⟨⟨fun haccepts => ?_, fun hstorable _ operation reply hprompt => ?_⟩,
    fun hstorable hprompt => ?_⟩
  · by_contra hstorable
    have hshort := Duration.stored_lt_of_not_isStorable hstorable
    let reply : Reply Unit := { outcome := .ok (), elapsed := d }
    have hrefused : (reply.within "count" (some d.stored)).outcome = _ :=
      Reply.outcome_within_of_late rfl hshort
    rw [haccepts Unit "count" reply (Nat.lt_irrefl _)] at hrefused
    cases hrefused
  · rw [Duration.stored_of_isStorable hstorable]
    exact Reply.within_of_not_late hprompt
  · have hlimit : (clustering.settings.withTimeout d).timeout = some d := by
      rw [Settings.timeout_withTimeout, Duration.stored_of_isStorable hstorable]
    rw [fit, fit, hlimit, hprompt.timed_eq, Settings.withTimeout, fitUntimed_withTimeout,
      fitUntimed_withTimeout]
    rfl

/-- A quarter of a second is a count of milliseconds. -/
theorem fit_withTimeout_onLine :
    let d : Duration := ⟨250000000⟩
    let population : Population := ⟨(pointsOnLine [1.0, 2.0, 6.0]).toArray, by decide, by decide⟩
    let store : PointStore Unit SplitMix := population.store
    let settings : Settings := { seed := some 3 }
    d.IsStorable ∧ store.Prompt d ∧
      ({ k := 2, settings := settings.withTimeout d } : Clustering Unit).fit store =
        ({ k := 2, settings } : Clustering Unit).fit store := by
  intro d population store settings
  have hstorable : d.IsStorable := ⟨by decide, by decide⟩
  have hprompt : store.Prompt d := PointStore.prompt_population population (by decide)
  exact ⟨hstorable, hprompt, (fit_withTimeout { k := 2, settings } store d).2 hstorable hprompt⟩

/-- A clustering that is not refused fails at once if the count is late. -/
theorem fails_fit_of_lateCount [RandomSource ρ] {clustering : Clustering σ}
    {store : PointStore σ ρ} {session : Session σ ρ} {allowed : Duration} {population : Nat}
    (hrequest : clustering.checkRequest = .ok ())
    (hlimit : clustering.settings.timeout = some allowed)
    (hcount : (store.count session.store).1.outcome = .ok population)
    (hlate : allowed < (store.count session.store).1.elapsed) :
    (clustering.fit store).Fails session (.error (Reply.overrun "count" allowed))
      (afterCall store.count session) := by
  have hchecks : (check clustering.checkRequest : Procedure σ ρ Unit).Answers session () session :=
    answers_check_iff.mpr ⟨hrequest, rfl⟩
  have hrefused : ((store.timed (some allowed)).count session.store).1.outcome =
      .error (Reply.overrun "count" allowed) :=
    Reply.outcome_guarded_of_late hcount hlate
  have hfails : (store.timed (some allowed)).askCount.Fails session
      (.error (Reply.overrun "count" allowed)) (afterCall store.count session) :=
    fails_call_iff.mpr ⟨_, hrefused, rfl, rfl⟩
  rw [fit, hlimit, fitUntimed_eq, validate_eq]
  exact fails_bind_iff.mpr
    (.inl (fails_bind_iff.mpr (.inr ⟨(), session, hchecks, fails_bind_iff.mpr (.inl hfails)⟩)))

/-- Half a millisecond is kept as no time at all, under which every call is late.  Of
half a thousand million years 384 milliseconds are kept. -/
theorem fit_withTimeout_fails_shortened :
    let d : Duration := ⟨500000⟩
    let population : Population := ⟨(pointsOnLine [1.0, 2.0, 6.0]).toArray, by decide, by decide⟩
    let store : PointStore Unit SplitMix := population.store
    let session : Session Unit SplitMix := { store := (), random := {} }
    store.Prompt d ∧
      (({ k := 2, settings := ({} : Settings).withTimeout d } : Clustering Unit).fit store).Fails
        session
        (.error (.storageUnavailable "count" "call exceeded timeout of 0ns" none)) session ∧
      (({} : Settings).withTimeout ⟨18446744073709552 * 10 ^ 9⟩).timeout =
        some (.ofMilliseconds 384) := by
  intro d population store session
  have hrequest : ({ k := 2, settings := ({} : Settings).withTimeout d } :
      Clustering Unit).checkRequest = .ok () :=
    checkRequest_eq_ok_iff.mpr ⟨by decide +kernel, by decide⟩
  have hlimit : (({} : Settings).withTimeout d).timeout = some ⟨0⟩ := by decide
  exact ⟨PointStore.prompt_population population (by decide),
    fails_fit_of_lateCount hrequest hlimit rfl (by decide), by decide⟩

end Clustering

end SampledKmeans
