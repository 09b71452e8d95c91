import SampledKmeans.Proofs.Procedure

/-!
# Procedures in a larger state

A procedure that works on a part of a state does the same when the rest stands
beside that part: it ends alike, and it leaves the rest as it was.  `embed` puts the
part into the whole, and `Lifts embed procedure lifted` says that the lifted procedure
does in an embedded session what the other one does in the session itself.

All steps but the calls of a store are oblivious of the state.  A call lifts if the
lifted request answers alike and its new state is again an embedded one; everything
that is put together from lifted parts is lifted.
-/

namespace SampledKmeans

variable {σ τ ρ α β : Type}

/-- The session with its state embedded into a larger one. -/
def Session.within (embed : σ → τ) (session : Session σ ρ) : Session τ ρ where
  store := embed session.store
  random := session.random
  events := session.events

namespace Procedure

/-- In an embedded session the lifted procedure does what the other one does in the
session itself, and leaves an embedded session behind. -/
def Lifts (embed : σ → τ) (procedure : Procedure σ ρ α) (lifted : Procedure τ ρ α) : Prop :=
  ∀ session, lifted.runIn (session.within embed) =
    ((procedure.runIn session).1, (procedure.runIn session).2.within embed)

variable {embed : σ → τ} {procedure : Procedure σ ρ α} {lifted : Procedure τ ρ α}
  {session after : Session σ ρ}

theorem Lifts.answers (h : Lifts embed procedure lifted) {a : α}
    (hanswers : procedure.Answers session a after) :
    lifted.Answers (session.within embed) a (after.within embed) := by
  rw [Answers, h session, hanswers.runIn_eq]

theorem Lifts.fails (h : Lifts embed procedure lifted) {failure : Failure}
    (hfails : procedure.Fails session failure after) :
    lifted.Fails (session.within embed) failure (after.within embed) := by
  rw [Fails, h session, show procedure.runIn session = _ from hfails]

/-! ## Composition -/

theorem Lifts.bind {next : α → Procedure σ ρ β} {next' : α → Procedure τ ρ β}
    (h : Lifts embed procedure lifted) (hnext : ∀ a, Lifts embed (next a) (next' a)) :
    Lifts embed (procedure >>= next) (lifted >>= next') := by
  intro session
  rw [runIn_bind, runIn_bind, h session]
  rcases procedure.runIn session with ⟨failure | a, between⟩
  · rfl
  · exact hnext a between

theorem Lifts.ite {other : Procedure σ ρ α} {other' : Procedure τ ρ α} (c : Prop) [Decidable c]
    (h : Lifts embed procedure lifted) (hother : Lifts embed other other') :
    Lifts embed (if c then procedure else other) (if c then lifted else other') := by
  split_ifs
  · exact h
  · exact hother

theorem Lifts.checkpointed (h : Lifts embed procedure lifted) (checkpoint : Checkpoint) :
    Lifts embed (Procedure.checkpointed checkpoint procedure)
      (Procedure.checkpointed checkpoint lifted) := by
  intro session
  rw [runIn_checkpointed, runIn_checkpointed, h session]

theorem Lifts.withRandom (h : Lifts embed procedure lifted) (random : ρ) :
    Lifts embed (Procedure.withRandom random procedure) (Procedure.withRandom random lifted) := by
  intro session
  have hrun : lifted.runIn { session.within embed with random } = _ := h { session with random }
  rw [runIn_withRandom, runIn_withRandom, hrun]
  rfl

/-! ## The steps of procedures -/

theorem lifts_pure (a : α) : Lifts embed (pure a : Procedure σ ρ α) (pure a) :=
  fun _ => rfl

theorem lifts_report (event : Event) :
    Lifts embed (report event : Procedure σ ρ Unit) (report event) :=
  fun _ => rfl

theorem lifts_fail (error : Error) : Lifts embed (fail error : Procedure σ ρ α) (fail error) :=
  fun _ => rfl

theorem lifts_check (value : Except Error α) :
    Lifts embed (check value : Procedure σ ρ α) (check value) := by
  cases value with
  | error error => exact lifts_fail error
  | ok a => exact lifts_pure a

theorem lifts_expect (value : Option α) :
    Lifts embed (expect value : Procedure σ ρ α) (expect value) := by
  cases value <;> exact fun _ => rfl

theorem lifts_reserve (rows : Nat) :
    Lifts embed (reserve rows : Procedure σ ρ Unit) (reserve rows) := by
  unfold reserve
  split_ifs <;> exact fun _ => rfl

theorem lifts_draw (request : ρ → α × ρ) :
    Lifts embed (draw request : Procedure σ ρ α) (draw request) :=
  fun _ => rfl

theorem lifts_call {request : σ → Reply α × σ} {request' : τ → Reply α × τ}
    (h : ∀ state, request' (embed state) = ((request state).1, embed (request state).2)) :
    Lifts embed (call request : Procedure σ ρ α) (call request') := by
  intro session
  have hrequest : request' (session.within embed).store = _ := h session.store
  rw [runIn_call, runIn_call, afterCall, hrequest]
  rfl

theorem lifts_callRandom {request : ρ → σ → Reply α × ρ × σ} {request' : ρ → τ → Reply α × ρ × τ}
    (h : ∀ source state, request' source (embed state) = ((request source state).1,
      (request source state).2.1, embed (request source state).2.2)) :
    Lifts embed (callRandom request) (callRandom request') := by
  intro session
  have hrequest : request' (session.within embed).random (session.within embed).store = _ :=
    h session.random session.store
  rw [runIn_callRandom, runIn_callRandom, afterCallRandom, hrequest]
  rfl

theorem Lifts.mapM {f : α → Procedure σ ρ β} {f' : α → Procedure τ ρ β}
    (h : ∀ a, Lifts embed (f a) (f' a)) (l : List α) : Lifts embed (l.mapM f) (l.mapM f') := by
  induction l with
  | nil => exact lifts_pure []
  | cons a l ih =>
      rw [List.mapM_cons, List.mapM_cons]
      apply (h a).bind
      intro b
      apply ih.bind
      intro bs
      exact lifts_pure (b :: bs)

end Procedure

end SampledKmeans
