import SampledKmeans.Overlap
import SampledKmeans.Proofs.Procedure

/-!
# Lists that are gone through with overlapping calls

With nothing ahead a list is gone through in its order
(`mapOverlapping_of_ahead_eq_nil`).  Whatever is ahead, an answer for the list
consists of one answer for each element (`forall₂_of_answers_mapOverlapping`): what
was found ahead is found again at the position of its element.  Overlap makes no
difference at all where the results need no session (`mapOverlapping_ofExcept`).
-/

namespace SampledKmeans

variable {σ ρ α β : Type}

/-! ## Failures -/

namespace Overlap

variable {overlap : Overlap} {results : List (Except Failure β)} {failure : Failure}

theorem mem_failures : failure ∈ failures results ↔ .error failure ∈ results := by
  induction results with
  | nil => simp [failures]
  | cons result results ih => cases result <;> simp [failures, ih]

theorem mem_of_failure? (h : overlap.failure? results = some failure) :
    .error failure ∈ results := by
  rw [← mem_failures]
  rcases Option.or_eq_some_iff.mp h with hplace | ⟨-, hhead⟩
  · exact List.mem_of_getElem? hplace
  · exact List.mem_of_head? hhead

theorem failure?_eq_none_iff :
    overlap.failure? results = none ↔ ∀ failure, .error failure ∉ results := by
  constructor
  · intro h failure hmem
    have hnil := List.head?_eq_none_iff.mp (Option.or_eq_none_iff.mp h).2
    rw [← mem_failures, hnil] at hmem
    cases hmem
  · intro h
    have hnil : failures results = [] :=
      List.eq_nil_iff_forall_not_mem.mpr fun failure hmem => h failure (mem_failures.mp hmem)
    rw [failure?, hnil]
    rfl

theorem mem_early {l : List α} {entry : Nat × α} (h : entry ∈ overlap.early l) :
    l[entry.1]? = some entry.2 := by
  obtain ⟨i, -, hi⟩ := List.mem_filterMap.mp h
  obtain ⟨a, ha, rfl⟩ := Option.map_eq_some_iff.mp hi
  exact ha

theorem mem_of_answer? {tried : List (Nat × Except Failure β)} {position : Nat} {b : β}
    (h : answer? tried position = some b) : (position, .ok b) ∈ tried := by
  obtain ⟨result, hlookup, hresult⟩ := Option.bind_eq_some_iff.mp h
  cases result with
  | error failure => cases hresult
  | ok answer =>
      obtain rfl := Option.some.inj hresult
      obtain ⟨before, behind, rfl, -⟩ := List.lookup_eq_some_iff.mp hlookup
      exact List.mem_append_right before List.mem_cons_self

end Overlap

theorem Overlaps.not_parallel_none : ¬ Overlaps.none.Parallel :=
  fun ⟨_, hahead⟩ => hahead rfl

namespace Procedure

open MonadExcept Overlap

variable {procedure : Procedure σ ρ α} {session after : Session σ ρ} {failure : Failure}
  {overlap : Overlap} {f : α → Procedure σ ρ β} {l : List α}

/-! ## Attempts -/

theorem runIn_attempt (procedure : Procedure σ ρ α) (session : Session σ ρ) :
    (attempt procedure).runIn session =
      (.ok (procedure.outcome session), (procedure.runIn session).2) :=
  rfl

theorem answers_attemptAt_iff {entry : Nat × α} {tried : Nat × Except Failure β} :
    (attemptAt f entry).Answers session tried after ↔
      (f entry.2).runIn session = (tried.2, after) ∧ tried.1 = entry.1 := by
  have hrun : (attemptAt f entry).runIn session =
      (.ok (entry.1, (f entry.2).outcome session), ((f entry.2).runIn session).2) :=
    rfl
  obtain ⟨i, result⟩ := tried
  rw [Answers, hrun]
  constructor
  · intro h
    obtain ⟨hresult, rfl⟩ := Prod.mk.inj h
    obtain ⟨rfl, rfl⟩ := Prod.mk.inj (Except.ok.inj hresult)
    exact ⟨rfl, rfl⟩
  · rintro ⟨hf, hi⟩
    dsimp only at hf hi
    rw [hi, outcome, hf]

/-! ## One element after another -/

theorem mapM_zipIdx (f : α → Procedure σ ρ β) (l : List α) (n : Nat) :
    (l.zipIdx n).mapM (fun entry => f entry.1) = l.mapM f := by
  induction l generalizing n with
  | nil => rfl
  | cons a l ih => rw [List.zipIdx_cons, List.mapM_cons, List.mapM_cons, ih]

/-- With nothing ahead the list is gone through in its order. -/
theorem mapOverlapping_of_ahead_eq_nil (h : overlap.ahead = []) (f : α → Procedure σ ρ β)
    (l : List α) : mapOverlapping overlap f l = l.mapM f := by
  rw [mapOverlapping, early, h]
  exact mapM_zipIdx f l 0

/-! ## Answers -/

theorem answers_mapOverlapping_iff {bs : List β} :
    (mapOverlapping overlap f l).Answers session bs after ↔
      ∃ tried between, ((overlap.early l).mapM (attemptAt f)).Answers session tried between ∧
        overlap.failure? (tried.map Prod.snd) = none ∧
        (l.zipIdx.mapM (answerOr tried f)).Answers between bs after := by
  rw [mapOverlapping, answers_bind_iff]
  refine exists_congr fun tried => exists_congr fun between => and_congr_right fun _ => ?_
  cases overlap.failure? (tried.map Prod.snd) with
  | none => simp only [true_and]
  | some failure =>
      simp only [reduceCtorEq, false_and, iff_false]
      intro h
      cases congrArg Prod.fst h

/-- What is answered for an element was answered by a call for it, then or ahead. -/
theorem exists_answers_of_answerOr {tried : List (Nat × Except Failure β)} {before : Session σ ρ}
    (htried : ((overlap.early l).mapM (attemptAt f)).Answers session tried before) {a : α} {i : Nat}
    (hi : l[i]? = some a) {between : Session σ ρ} {b : β}
    (h : (answerOr tried f (a, i)).Answers between b after) :
    ∃ before behind, (f a).Answers before b behind := by
  rw [answerOr] at h
  cases hanswer : answer? tried i with
  | none =>
      rw [hanswer] at h
      exact ⟨between, after, h⟩
  | some answer =>
      rw [hanswer] at h
      obtain ⟨rfl, -⟩ := answers_pure_iff.mp h
      obtain ⟨entry, hentry, before, behind, hattempt⟩ :=
        exists_mem_left_of_forall₂ (forall₂_of_answers_mapM htried) (mem_of_answer? hanswer)
      obtain ⟨hrun, rfl⟩ := answers_attemptAt_iff.mp hattempt
      obtain rfl := Option.some.inj (hi.symm.trans (mem_early hentry))
      exact ⟨before, behind, hrun⟩

theorem forall₂_of_answers_mapOverlapping {bs : List β}
    (h : (mapOverlapping overlap f l).Answers session bs after) :
    List.Forall₂ (fun a b => ∃ before behind, (f a).Answers before b behind) l bs := by
  obtain ⟨tried, between, htried, -, hanswers⟩ := answers_mapOverlapping_iff.mp h
  have hentries : List.Forall₂ (fun entry b => ∃ before behind, (f entry.1).Answers before b behind)
      l.zipIdx bs := by
    have hall := forall₂_of_answers_mapM hanswers
    rw [List.forall₂_iff_get] at hall ⊢
    refine ⟨hall.1, fun i hentry hb => ?_⟩
    obtain ⟨_, _, hanswer⟩ := hall.2 i hentry hb
    have hmem := List.mem_zipIdx_iff_getElem?.mp (List.get_mem l.zipIdx ⟨i, hentry⟩)
    exact exists_answers_of_answerOr htried hmem hanswer
  rw [← List.zipIdx_map_fst 0 l]
  exact List.forall₂_map_left_iff.mpr hentries

/-! ## Results that need no session -/

section Results

variable {result : α → Except Failure β}

theorem attemptAt_ofExcept (result : α → Except Failure β) (entry : Nat × α) :
    (attemptAt (fun a => ofExcept (result a)) entry : Procedure σ ρ (Nat × Except Failure β)) =
      pure (entry.1, result entry.2) := by
  rw [attemptAt]
  cases result entry.2 <;> rfl

/-- A list that holds a failure fails with it, if no other failure comes before. -/
theorem mapM_ofExcept_eq_throw
    (halike : ∀ a ∈ l, ∀ other, result a = .error other → other = failure)
    (hmem : ∃ a ∈ l, result a = .error failure) :
    (l.mapM fun a => ofExcept (result a) : Procedure σ ρ (List β)) = throw failure := by
  induction l with
  | nil => obtain ⟨a, ha, -⟩ := hmem; cases ha
  | cons a l ih =>
      obtain ⟨hhead, htail⟩ := List.forall_mem_cons.mp halike
      rw [List.mapM_cons]
      cases hresult : result a with
      | error other =>
          obtain rfl := hhead other hresult
          rfl
      | ok b =>
          have hrest : ∃ a ∈ l, result a = .error failure :=
            (List.exists_mem_cons_iff ..).mp hmem |>.resolve_left (by simp [hresult])
          rw [ih htail hrest]
          rfl

/-- Results that no session has a part in are the same in any order, if all failures
among them are one. -/
theorem mapOverlapping_ofExcept
    (halike : ∀ a ∈ l, ∀ other, result a = .error other → other = failure) (overlap : Overlap) :
    (mapOverlapping overlap (fun a => ofExcept (result a)) l : Procedure σ ρ (List β)) =
      l.mapM fun a => ofExcept (result a) := by
  let tried := (overlap.early l).map fun entry => (entry.1, result entry.2)
  have hentry {entry : Nat × Except Failure β} (h : entry ∈ tried) :
      ∃ a, l[entry.1]? = some a ∧ result a = entry.2 := by
    obtain ⟨⟨i, a⟩, hearly, rfl⟩ := List.mem_map.mp h
    exact ⟨a, mem_early hearly, rfl⟩
  have htried : ((overlap.early l).mapM (attemptAt fun a => ofExcept (result a)) :
      Procedure σ ρ (List (Nat × Except Failure β))) = pure tried := by
    simp only [funext (attemptAt_ofExcept result), List.mapM_pure, tried]
  rw [mapOverlapping, htried, pure_bind]
  cases hfailure : overlap.failure? (tried.map Prod.snd) with
  | some other =>
      obtain ⟨entry, hmem, hother⟩ := List.mem_map.mp (mem_of_failure? hfailure)
      obtain ⟨a, hi, ha⟩ := hentry hmem
      have hfails : result a = .error other := ha.trans hother
      obtain rfl := halike a (List.mem_of_getElem? hi) other hfails
      exact (mapM_ofExcept_eq_throw halike ⟨a, List.mem_of_getElem? hi, hfails⟩).symm
  | none =>
      rw [← mapM_zipIdx _ l 0]
      refine mapM_congr fun entry hmem => ?_
      rw [answerOr]
      cases hanswer : answer? tried entry.2 with
      | none => rfl
      | some b =>
          obtain ⟨a, hi, ha⟩ := hentry (mem_of_answer? hanswer)
          obtain rfl := Option.some.inj (hi.symm.trans (List.mem_zipIdx_iff_getElem?.mp hmem))
          rw [ha]
          rfl

end Results

end Procedure

end SampledKmeans
