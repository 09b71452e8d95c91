import SampledKmeans.Proofs.Procedure

/-!
# What procedures ensure

`Ensures E procedure Q` bounds both endings of a procedure at once: in every
session it answers something of which `Q` holds, or it fails in a way that `E`
allows.  A procedure that is put together from others ensures what its parts do
(`Ensures.bind`, `Ensures.mapM`), so that one statement about each procedure
serves for every choice of `E`.
-/

namespace SampledKmeans.Procedure

variable {σ ρ α β : Type} {E : Failure → Prop}

/-- Every answer of the procedure is in `Q`, and every failure in `E`. -/
structure Ensures (E : Failure → Prop) (procedure : Procedure σ ρ α) (Q : α → Prop) : Prop where
  answer : ∀ {session after : Session σ ρ} {a : α}, procedure.Answers session a after → Q a
  failure : ∀ {session after : Session σ ρ} {failure : Failure},
    procedure.Fails session failure after → E failure

namespace Ensures

variable {procedure : Procedure σ ρ α} {Q : α → Prop}

theorem imp {R : α → Prop} (h : Ensures E procedure Q) (himp : ∀ a, Q a → R a) :
    Ensures E procedure R where
  answer hanswers := himp _ (h.answer hanswers)
  failure := h.failure

/-- What is known of the answers of a procedure may be added. -/
theorem and_answer {R : α → Prop} (h : Ensures E procedure Q)
    (hanswer : ∀ {session after : Session σ ρ} {a : α}, procedure.Answers session a after → R a) :
    Ensures E procedure fun a => Q a ∧ R a where
  answer hanswers := ⟨h.answer hanswers, hanswer hanswers⟩
  failure := h.failure

theorem bind {next : α → Procedure σ ρ β} {R : β → Prop} (h : Ensures E procedure Q)
    (hnext : ∀ a, Q a → Ensures E (next a) R) : Ensures E (procedure >>= next) R where
  answer hanswers := by
    obtain ⟨a, between, hfirst, hrest⟩ := answers_bind_iff.mp hanswers
    exact (hnext a (h.answer hfirst)).answer hrest
  failure hfails := by
    rcases fails_bind_iff.mp hfails with hfirst | ⟨a, between, hfirst, hrest⟩
    · exact h.failure hfirst
    · exact (hnext a (h.answer hfirst)).failure hrest

theorem mapM {f : α → Procedure σ ρ β} {R : β → Prop} {l : List α}
    (h : ∀ a ∈ l, Ensures E (f a) R) :
    Ensures E (l.mapM f) fun bs => bs.length = l.length ∧ ∀ b ∈ bs, R b := by
  induction l with
  | nil =>
      exact ⟨fun hanswers => (answers_pure_iff.mp hanswers).1 ▸ ⟨rfl, by simp⟩,
        fun hfails => absurd hfails not_fails_pure⟩
  | cons a l ih =>
      obtain ⟨ha, hl⟩ := List.forall_mem_cons.mp h
      rw [List.mapM_cons]
      refine ha.bind fun b hb => (ih hl).bind fun bs hbs => ?_
      have hcons : (b :: bs).length = (a :: l).length ∧ ∀ c ∈ b :: bs, R c :=
        ⟨by simp [hbs.1], List.forall_mem_cons.mpr ⟨hb, hbs.2⟩⟩
      exact ⟨fun hanswers => (answers_pure_iff.mp hanswers).1 ▸ hcons,
        fun hfails => absurd hfails not_fails_pure⟩

theorem checkpointed {checkpoint : Checkpoint} (h : Ensures E procedure Q)
    (hcheckpoint : ∀ failure, E failure → E (failure.mapError (Error.withCheckpoint checkpoint))) :
    Ensures E (Procedure.checkpointed checkpoint procedure) Q where
  answer hanswers := h.answer (answers_checkpointed_iff.mp hanswers)
  failure hfails := by
    obtain ⟨cause, hcause, rfl⟩ := fails_checkpointed_iff.mp hfails
    exact hcheckpoint cause (h.failure hcause)

end Ensures

/-! ## The steps of procedures -/

theorem ensures_pure {Q : α → Prop} {a : α} (h : Q a) :
    Ensures E (pure a : Procedure σ ρ α) Q where
  answer hanswers := (answers_pure_iff.mp hanswers).1 ▸ h
  failure hfails := absurd hfails not_fails_pure

theorem ensures_report (event : Event) :
    Ensures E (report event : Procedure σ ρ Unit) fun _ => True where
  answer _ := trivial
  failure hfails := absurd hfails not_fails_report

theorem ensures_fail {Q : α → Prop} {error : Error} (h : E (.error error)) :
    Ensures E (fail error : Procedure σ ρ α) Q where
  answer hanswers := absurd hanswers not_answers_fail
  failure hfails := (fails_fail_iff.mp hfails).1 ▸ h

theorem ensures_check {value : Except Error α}
    (h : ∀ error, value = .error error → E (.error error)) :
    Ensures E (check value : Procedure σ ρ α) fun a => value = .ok a where
  answer hanswers := (answers_check_iff.mp hanswers).1
  failure hfails := by
    obtain ⟨error, hvalue, rfl, -⟩ := fails_check_iff.mp hfails
    exact h error hvalue

theorem ensures_expect {value : Option α} (h : value = none → E .outOfRange) :
    Ensures E (expect value : Procedure σ ρ α) fun a => value = some a where
  answer hanswers := (answers_expect_iff.mp hanswers).1
  failure hfails := by
    obtain ⟨hvalue, rfl, -⟩ := fails_expect_iff.mp hfails
    exact h hvalue

theorem ensures_reserve {rows : Nat} (h : maxRows < rows → E .outOfMemory) :
    Ensures E (reserve rows : Procedure σ ρ Unit) fun _ => True where
  answer _ := trivial
  failure hfails := by
    obtain ⟨hrows, rfl, -⟩ := fails_reserve_iff.mp hfails
    exact h hrows

theorem ensures_draw (request : ρ → α × ρ) :
    Ensures E (draw request : Procedure σ ρ α) fun _ => True where
  answer _ := trivial
  failure hfails := absurd hfails not_fails_draw

theorem ensures_call {request : σ → Reply α × σ} {Q : α → Prop}
    (hok : ∀ state a, (request state).1.outcome = .ok a → Q a)
    (herror : ∀ state error, (request state).1.outcome = .error error → E (.error error)) :
    Ensures E (call request : Procedure σ ρ α) Q where
  answer hanswers := hok _ _ (answers_call_iff.mp hanswers).1
  failure hfails := by
    obtain ⟨error, houtcome, rfl, -⟩ := fails_call_iff.mp hfails
    exact herror _ _ houtcome

theorem ensures_callRandom {request : ρ → σ → Reply α × ρ × σ} {Q : α → Prop}
    (hok : ∀ source state a, (request source state).1.outcome = .ok a → Q a)
    (herror : ∀ source state error, (request source state).1.outcome = .error error →
      E (.error error)) :
    Ensures E (callRandom request : Procedure σ ρ α) Q where
  answer hanswers := hok _ _ _ (answers_callRandom_iff.mp hanswers).1
  failure hfails := by
    obtain ⟨error, houtcome, rfl, -⟩ := fails_callRandom_iff.mp hfails
    exact herror _ _ _ houtcome

end SampledKmeans.Procedure
