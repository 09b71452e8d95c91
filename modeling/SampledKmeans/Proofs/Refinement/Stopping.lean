import SampledKmeans.Proofs.Number.Zero
import SampledKmeans.Proofs.Refinement.Replay

/-!
# When refinement stops

The rules are asked after each iteration, about the measurements so far.  Here
they are read off the measurements of the whole run: measurement `j` is made in
iteration `j + 2`, so that the newest one after iteration `i` is number `i - 2`
and the oldest of the last four is number `i - 5`.

A run stops after the first iteration after which a rule holds, for the first
rule that does, or after an iteration after which none holds and the caller has
asked to stop.
-/

namespace SampledKmeans

/-! ## The rules -/

/-- After iteration `i` the oldest of the last four measurements is smaller than
the newest. -/
def Stalls (fractions : List Float) (i : Nat) : Prop :=
  5 ≤ i ∧ ∃ oldest newest, fractions[i - 5]? = some oldest ∧ fractions[i - 2]? = some newest ∧
    oldest - newest < 0.0

/-- After iteration `i` the newest measurement is smaller than the limit. -/
def FallsBelow (limit : Float) (fractions : List Float) (i : Nat) : Prop :=
  2 ≤ i ∧ ∃ newest, fractions[i - 2]? = some newest ∧ newest < limit

/-- The last four measurements after iteration `i`. -/
def LastFour (fractions : List Float) (i : Nat) (a b c d : Float) : Prop :=
  fractions[i - 5]? = some a ∧ fractions[i - 4]? = some b ∧ fractions[i - 3]? = some c ∧
    fractions[i - 2]? = some d

/-- The reasons to stop after iteration `i`: each rule counts when the rules
before it do not hold, and the caller when none of them does. -/
inductive Limits.StopsFor (limits : Limits) (fractions : List Float) (i : Nat) :
    StopReason → Prop where
  | stabilized {a b c d : Float} (measured : LastFour fractions i a b c d)
      (stalls : Stalls fractions i) :
      StopsFor limits fractions i (.stabilized ((a + b + c + d) / 4.0))
  | belowLimit (improves : ¬ Stalls fractions i)
      (below : FallsBelow limits.changeLimit fractions i) :
      StopsFor limits fractions i (.belowLimit limits.changeLimit)
  | iterationLimit (improves : ¬ Stalls fractions i)
      (above : ¬ FallsBelow limits.changeLimit fractions i) (last : i = limits.maxIterations) :
      StopsFor limits fractions i (.iterationLimit limits.maxIterations)
  | cancelled (improves : ¬ Stalls fractions i)
      (above : ¬ FallsBelow limits.changeLimit fractions i) (early : i < limits.maxIterations) :
      StopsFor limits fractions i .cancelled

/-! ## The measurements at hand -/

theorem drop_eq_last_four {fractions : List Float} {i : Nat} (hlength : fractions.length = i - 1)
    (hi : 5 ≤ i) : ∃ a b c d, fractions.drop (fractions.length - 4) = [a, b, c, d] ∧
      LastFour fractions i a b c d := by
  have hfive : i - 5 < fractions.length := by omega
  have hfour : i - 4 < fractions.length := by omega
  have hthree : i - 3 < fractions.length := by omega
  have htwo : i - 2 < fractions.length := by omega
  refine ⟨fractions[i - 5], fractions[i - 4], fractions[i - 3], fractions[i - 2], ?_,
    List.getElem?_eq_getElem hfive, List.getElem?_eq_getElem hfour,
    List.getElem?_eq_getElem hthree, List.getElem?_eq_getElem htwo⟩
  have hstart : fractions.length - 4 = i - 5 := by omega
  have hsecond : i - 5 + 1 = i - 4 := by omega
  have hthird : i - 4 + 1 = i - 3 := by omega
  have hfourth : i - 3 + 1 = i - 2 := by omega
  have hend : fractions.length ≤ i - 2 + 1 := by omega
  rw [hstart, List.drop_eq_getElem_cons hfive, hsecond, List.drop_eq_getElem_cons hfour, hthird,
    List.drop_eq_getElem_cons hthree, hfourth, List.drop_eq_getElem_cons htwo,
    List.drop_eq_nil_of_le hend]

/-- `plateau?` answers when the measurements stall. -/
theorem plateau?_eq {fractions : List Float} {i : Nat} (hlength : fractions.length = i - 1) :
    (¬ Stalls fractions i ∧ plateau? fractions = none) ∨
      ∃ a b c d, LastFour fractions i a b c d ∧ Stalls fractions i ∧
        plateau? fractions = some ((0.0 + a + b + c + d) / 4.0) := by
  by_cases hi : 5 ≤ i
  · obtain ⟨a, b, c, d, hdrop, ha, hb, hc, hd⟩ := drop_eq_last_four hlength hi
    by_cases hlt : a - d < 0.0
    · right
      refine ⟨a, b, c, d, ⟨ha, hb, hc, hd⟩, ⟨hi, a, d, ha, hd, hlt⟩, ?_⟩
      simp only [plateau?, hdrop, if_pos hlt]
    · left
      constructor
      · rintro ⟨-, oldest, newest, holdest, hnewest, hstalls⟩
        rw [ha, Option.some.injEq] at holdest
        rw [hd, Option.some.injEq] at hnewest
        subst holdest hnewest
        exact hlt hstalls
      · simp only [plateau?, hdrop, if_neg hlt]
  · left
    refine ⟨fun h => hi h.1, ?_⟩
    have hshort : (fractions.drop (fractions.length - 4)).length ≠ 4 := by
      rw [List.length_drop]
      omega
    unfold plateau?
    split
    · rename_i heq
      rw [heq] at hshort
      exact absurd rfl hshort
    · rfl

theorem any_getLast?_iff {fractions : List Float} {i : Nat} {limit : Float}
    (hlength : fractions.length = i - 1) :
    fractions.getLast?.any (· < limit) = true ↔ FallsBelow limit fractions i := by
  rw [List.getLast?_eq_getElem?, Option.any_eq_true, hlength]
  have hindex : i - 1 - 1 = i - 2 := by omega
  rw [hindex]
  constructor
  · rintro ⟨newest, hnewest, hlt⟩
    obtain ⟨hbound, -⟩ := List.getElem?_eq_some_iff.mp hnewest
    exact ⟨by omega, newest, hnewest, of_decide_eq_true hlt⟩
  · rintro ⟨-, newest, hnewest, hlt⟩
    exact ⟨newest, hnewest, decide_eq_true hlt⟩

/-! ## Later measurements do not matter -/

theorem getElem?_eq_of_extends {earlier whole : List Float} (hextends : earlier <+: whole) {j : Nat}
    (hj : j < earlier.length) : whole[j]? = earlier[j]? := by
  obtain ⟨later, rfl⟩ := hextends
  exact List.getElem?_append_left hj

theorem stalls_iff_of_extends {earlier whole : List Float} {i : Nat}
    (hextends : earlier <+: whole) (hlength : earlier.length = i - 1) :
    Stalls whole i ↔ Stalls earlier i := by
  unfold Stalls
  refine and_congr_right fun hi => ?_
  rw [getElem?_eq_of_extends hextends (by omega), getElem?_eq_of_extends hextends (by omega)]

theorem fallsBelow_iff_of_extends {earlier whole : List Float} {i : Nat} {limit : Float}
    (hextends : earlier <+: whole) (hlength : earlier.length = i - 1) :
    FallsBelow limit whole i ↔ FallsBelow limit earlier i := by
  unfold FallsBelow
  refine and_congr_right fun hi => ?_
  rw [getElem?_eq_of_extends hextends (by omega)]

/-! ## The rules in a run -/

/-- A measurement has no minus sign, so a sum may start with it or with zero. -/
theorem Progress.IsChangeFraction.zero_add {total : Nat} {fraction : Float}
    (h : IsChangeFraction total fraction) : 0.0 + fraction = fraction := by
  obtain ⟨moved, rfl⟩ := h
  exact Number.zero_add_of_unsigned (Number.unsigned_smaller_quotient moved total)

namespace Limits

variable {σ ρ : Type} {store : PointStore σ ρ} {limits : Limits} {stop : StopSignal σ}
  {working : List Point} {seeds : List Centroid} {session after : Session σ ρ}
  {progress : Progress} {reason : StopReason} {k : Nat}

theorem convergence?_eq (limits : Limits) (hsound : progress.Sound working k) :
    (¬ Stalls progress.changeTrace progress.iterations ∧
      ¬ FallsBelow limits.changeLimit progress.changeTrace progress.iterations ∧
      limits.convergence? progress = none) ∨
    ∃ reason, limits.convergence? progress = some reason ∧
      limits.StopsFor progress.changeTrace progress.iterations reason := by
  have hlength := hsound.length_changeTrace
  rcases plateau?_eq hlength with ⟨himproves, hplateau⟩ | ⟨a, b, c, d, hmeasured, hstalls, hplateau⟩
  · by_cases hbelow : FallsBelow limits.changeLimit progress.changeTrace progress.iterations
    · right
      have hany := (any_getLast?_iff hlength).mpr hbelow
      refine ⟨.belowLimit limits.changeLimit, ?_, .belowLimit himproves hbelow⟩
      simp only [convergence?, hplateau, if_pos hany]
    · left
      have hany := mt (any_getLast?_iff hlength).mp hbelow
      refine ⟨himproves, hbelow, ?_⟩
      simp only [convergence?, hplateau, if_neg hany]
  · right
    have ha : 0.0 + a = a :=
      (hsound.changeTrace_mem a (List.mem_of_getElem? hmeasured.1)).zero_add
    rw [ha] at hplateau
    refine ⟨_, ?_, .stabilized hmeasured hstalls⟩
    simp only [convergence?, hplateau]

/-- A run goes on as long as no rule holds. -/
theorem no_rule_of_ending? (hsound : progress.Sound working k)
    (h : limits.ending? stop progress session = none) :
    ¬ Stalls progress.changeTrace progress.iterations ∧
      ¬ FallsBelow limits.changeLimit progress.changeTrace progress.iterations ∧
      progress.iterations < limits.maxIterations := by
  obtain ⟨hconvergence, hlt⟩ := rule?_eq_none_iff.mp (ending?_eq_none_iff.mp h).1
  rcases limits.convergence?_eq hsound with ⟨himproves, habove, -⟩ | ⟨reason, hsome, -⟩
  · exact ⟨himproves, habove, hlt⟩
  · rw [hconvergence] at hsome
    cases hsome

/-- A run ends for the first rule that holds, or for the caller. -/
theorem stopsFor_of_ending? (hsound : progress.Sound working k)
    (hle : progress.iterations ≤ limits.maxIterations)
    (h : limits.ending? stop progress session = some reason) :
    limits.StopsFor progress.changeTrace progress.iterations reason := by
  rcases limits.convergence?_eq hsound with ⟨himproves, habove, hnone⟩ | ⟨reason', hsome, hstops⟩
  · rcases ending?_eq_some_iff.mp h with hrule | ⟨hrule, -, -, rfl⟩
    · rcases rule?_eq_some_iff.mp hrule with hconvergence | ⟨-, hmax, rfl⟩
      · rw [hnone] at hconvergence
        cases hconvergence
      · exact .iterationLimit himproves habove (Nat.le_antisymm hle hmax)
    · exact .cancelled himproves habove (rule?_eq_none_iff.mp hrule).2
  · have hrule : limits.rule? progress = some reason' := rule?_eq_some_iff.mpr (.inl hsome)
    rcases ending?_eq_some_iff.mp h with hrule' | ⟨hrule', -⟩
    · rw [hrule, Option.some.injEq] at hrule'
      exact hrule' ▸ hstops
    · rw [hrule] at hrule'
      cases hrule'

/-- Let a refinement succeed.  After none of its iterations but the last did a
rule hold.  After the last one the first rule that holds is the reason to stop,
or no rule holds and the caller is. -/
theorem refine_stops_first {result : Refinement}
    (h : (limits.refine store stop working seeds).outcome session = .ok result) :
    result.changeTrace.length = result.iterations - 1 ∧
    (∀ i < result.iterations, ¬ Stalls result.changeTrace i ∧
      ¬ FallsBelow limits.changeLimit result.changeTrace i ∧ i < limits.maxIterations) ∧
    limits.StopsFor result.changeTrace result.iterations result.reason := by
  have hadmits := admits_of_outcome_refine h
  obtain ⟨last, after, reason, hlast, hending, rfl⟩ := (outcome_refine_eq_ok_iff hadmits).mp h
  have hsound := hlast.sound_of_admits hadmits
  refine ⟨hsound.length_changeTrace, fun i hi => ?_,
    stopsFor_of_ending? hsound hlast.iterations_le hending⟩
  obtain ⟨earlier, between, hearlier, rfl, hgoesOn, hextends⟩ := hlast.exists_earlier hi
  have hlength := (hearlier.sound_of_admits hadmits).length_changeTrace
  obtain ⟨himproves, habove, hlt⟩ := no_rule_of_ending? (hearlier.sound_of_admits hadmits) hgoesOn
  exact ⟨mt (stalls_iff_of_extends hextends hlength).mp himproves,
    mt (fallsBelow_iff_of_extends hextends hlength).mp habove, hlt⟩

/-- Two far points leave the first cluster only in the fifth iteration, in which
more points move than in the iterations before. -/
theorem refine_stops_first_onLine :
    let store : PointStore Unit SplitMix := Population.empty.store
    let session : Session Unit SplitMix := { store := (), random := {} }
    let working := pointsOnLine [28.0, 28.0, 11.0, 4.0, 13.0, 14.0, 14.0, 10.0]
    let seeds := centroidsOnLine [1.0, 9.0]
    ∃ result, (({} : Limits).refine store .never working seeds).outcome session = .ok result ∧
      result.iterations = 5 ∧ result.changeTrace = [0.25, 0.25, 0.25, 0.5] ∧
      result.reason = .stabilized 0.3125 ∧ Stalls result.changeTrace 5 ∧
      ∀ i < 5, ¬ Stalls result.changeTrace i ∧ ¬ FallsBelow 0.001 result.changeTrace i ∧
        i < 20 := by
  intro store session working seeds
  have hok : (({} : Limits).refine store .never working seeds).outcome session = .ok {
      centroids := centroidsOnLine [11.0, 28.0], labels := [2, 2, 1, 1, 1, 1, 1, 1],
      iterations := 5, reason := .stabilized 0.3125, changeTrace := [0.25, 0.25, 0.25, 0.5],
      dead := [] } := by
    decide +kernel
  obtain ⟨-, hearlier, hstops⟩ := refine_stops_first hok
  refine ⟨_, hok, rfl, rfl, rfl, ?_, hearlier⟩
  generalize hreason : StopReason.stabilized 0.3125 = reason at hstops
  cases hstops with
  | stabilized _ hstalls => exact hstalls
  | belowLimit => cases hreason
  | iterationLimit => cases hreason
  | cancelled => cases hreason

end Limits

end SampledKmeans
