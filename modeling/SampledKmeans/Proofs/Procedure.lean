import Mathlib.Data.List.Forall2
import SampledKmeans.Session

/-!
# What procedures answer

A procedure takes a session to an answer or a failure and to the session that it
leaves behind.  `Answers` and `Fails` name the two endings, and the lemmas below
take a procedure apart along the way it is put together, so that no later proof
has to look into the monad.

Two procedures end *alike* when they have the same outcome, whatever session each of
them is started in, and a procedure that ends like itself is *steady*.  Both are kept
by composition (`Alike.bind`, `Alike.mapM`, `Steady.bind`, `Steady.mapM`).
-/

namespace SampledKmeans.Procedure

variable {σ ρ α β : Type}

/-- What a procedure makes of a session: its answer or failure, and the session
that it leaves behind. -/
def runIn (procedure : Procedure σ ρ α) (session : Session σ ρ) :
    Except Failure α × Session σ ρ :=
  procedure session

/-- The answer or the failure of a procedure in a session. -/
def outcome (procedure : Procedure σ ρ α) (session : Session σ ρ) : Except Failure α :=
  (procedure.runIn session).1

/-- In `session` the procedure answers `a` and leaves `after` behind. -/
def Answers (procedure : Procedure σ ρ α) (session : Session σ ρ) (a : α)
    (after : Session σ ρ) : Prop :=
  procedure.runIn session = (.ok a, after)

/-- In `session` the procedure fails and leaves `after` behind. -/
def Fails (procedure : Procedure σ ρ α) (session : Session σ ρ) (failure : Failure)
    (after : Session σ ρ) : Prop :=
  procedure.runIn session = (.error failure, after)

/-! ## The two endings -/

section Endings

variable {procedure : Procedure σ ρ α} {session after : Session σ ρ} {a : α} {failure : Failure}

theorem answers_or_fails (procedure : Procedure σ ρ α) (session : Session σ ρ) :
    (∃ a after, procedure.Answers session a after) ∨
      ∃ failure after, procedure.Fails session failure after := by
  unfold Answers Fails
  rcases procedure.runIn session with ⟨failure | a, after⟩
  · exact .inr ⟨failure, after, rfl⟩
  · exact .inl ⟨a, after, rfl⟩

theorem Answers.runIn_eq (h : procedure.Answers session a after) :
    procedure.runIn session = (.ok a, after) :=
  h

theorem Answers.outcome_eq (h : procedure.Answers session a after) :
    procedure.outcome session = .ok a :=
  congrArg Prod.fst h

theorem Fails.outcome_eq (h : procedure.Fails session failure after) :
    procedure.outcome session = .error failure :=
  congrArg Prod.fst h

theorem answers_of_outcome_eq (h : procedure.outcome session = .ok a) :
    procedure.Answers session a (procedure.runIn session).2 :=
  Prod.ext h rfl

theorem outcome_eq_ok_iff :
    procedure.outcome session = .ok a ↔ ∃ after, procedure.Answers session a after :=
  ⟨fun h => ⟨_, answers_of_outcome_eq h⟩, fun ⟨_, h⟩ => h.outcome_eq⟩

theorem outcome_eq_error_iff :
    procedure.outcome session = .error failure ↔ ∃ after, procedure.Fails session failure after :=
  ⟨fun h => ⟨_, Prod.ext h rfl⟩, fun ⟨_, h⟩ => h.outcome_eq⟩

end Endings

/-! ## Composition -/

section Composition

variable {procedure : Procedure σ ρ α} {next : α → Procedure σ ρ β}
  {session after : Session σ ρ} {failure : Failure}

theorem runIn_bind (procedure : Procedure σ ρ α) (next : α → Procedure σ ρ β)
    (session : Session σ ρ) :
    (procedure >>= next).runIn session = match procedure.runIn session with
      | (.ok a, between) => (next a).runIn between
      | (.error failure, after) => (.error failure, after) := by
  -- Failures are carried inside the state, so a failing first part still leaves its session.
  change (match procedure.runIn session with
    | (ending, between) => ExceptT.bindCont next ending between) = _
  rcases procedure.runIn session with ⟨failure | a, between⟩ <;> rfl

theorem answers_bind_iff {b : β} :
    (procedure >>= next).Answers session b after ↔
      ∃ a between, procedure.Answers session a between ∧ (next a).Answers between b after := by
  simp only [Answers, runIn_bind]
  rcases procedure.runIn session with ⟨failure | a, between⟩ <;> simp

theorem fails_bind_iff :
    (procedure >>= next).Fails session failure after ↔
      procedure.Fails session failure after ∨
        ∃ a between, procedure.Answers session a between ∧
          (next a).Fails between failure after := by
  simp only [Answers, Fails, runIn_bind]
  rcases procedure.runIn session with ⟨failure | a, between⟩ <;> simp

theorem Answers.answers_bind_iff {a : α} {between : Session σ ρ} {b : β}
    (h : procedure.Answers session a between) :
    (procedure >>= next).Answers session b after ↔ (next a).Answers between b after := by
  rw [Answers, runIn_bind, h]
  rfl

theorem Answers.fails_bind_iff {a : α} {between : Session σ ρ}
    (h : procedure.Answers session a between) :
    (procedure >>= next).Fails session failure after ↔ (next a).Fails between failure after := by
  rw [Fails, runIn_bind, h]
  rfl

theorem Answers.runIn_bind {a : α} {between : Session σ ρ}
    (h : procedure.Answers session a between) :
    (procedure >>= next).runIn session = (next a).runIn between := by
  rw [Procedure.runIn_bind, h]

theorem Fails.bind (h : procedure.Fails session failure after) :
    (procedure >>= next).Fails session failure after :=
  fails_bind_iff.mpr (.inl h)

theorem Fails.not_answers_bind {failed : Session σ ρ} {b : β}
    (h : procedure.Fails session failure failed) :
    ¬ (procedure >>= next).Answers session b after := by
  rw [Answers, runIn_bind, h]
  simp

@[simp] theorem answers_pure_iff {a b : α} :
    (pure a : Procedure σ ρ α).Answers session b after ↔ b = a ∧ after = session := by
  change (Except.ok a, session) = (Except.ok b, after) ↔ _
  simp [eq_comm]

@[simp] theorem not_fails_pure {a : α} :
    ¬ (pure a : Procedure σ ρ α).Fails session failure after := by
  change ¬ (Except.ok a, session) = (Except.error failure, after)
  simp

end Composition

/-! ## The steps of procedures -/

section Steps

variable {session after : Session σ ρ} {failure : Failure}

@[simp] theorem answers_report_iff {event : Event} {u : Unit} :
    (report event).Answers session u after ↔
      after = { session with events := session.events.push event } := by
  change (Except.ok (), _) = (Except.ok u, after) ↔ _
  simp [eq_comm]

@[simp] theorem not_fails_report {event : Event} :
    ¬ (report event).Fails session failure after := by
  change ¬ (Except.ok (), _) = (Except.error failure, after)
  simp

@[simp] theorem answers_expect_iff {value : Option α} {a : α} :
    (expect value).Answers session a after ↔ value = some a ∧ after = session := by
  cases value with
  | none =>
      change (Except.error Failure.outOfRange, session) = (Except.ok a, after) ↔ _
      simp
  | some b => simp [expect, eq_comm]

@[simp] theorem fails_expect_iff {value : Option α} :
    (expect value).Fails session failure after ↔
      value = none ∧ failure = .outOfRange ∧ after = session := by
  cases value with
  | none =>
      change (Except.error Failure.outOfRange, session) = (Except.error failure, after) ↔ _
      simp [eq_comm]
  | some b => simp [expect]

@[simp] theorem not_answers_fail {error : Error} {a : α} :
    ¬ (fail error : Procedure σ ρ α).Answers session a after := by
  change ¬ (Except.error (Failure.error error), session) = (Except.ok a, after)
  simp

@[simp] theorem answers_check_iff {value : Except Error α} {a : α} :
    (check value : Procedure σ ρ α).Answers session a after ↔ value = .ok a ∧ after = session := by
  cases value with
  | error e => simp [check]
  | ok b => simp [check, eq_comm]

@[simp] theorem fails_fail_iff {error : Error} :
    (fail error : Procedure σ ρ α).Fails session failure after ↔
      failure = .error error ∧ after = session := by
  change (Except.error (Failure.error error), session) = (Except.error failure, after) ↔ _
  simp [eq_comm]

@[simp] theorem fails_check_iff {value : Except Error α} :
    (check value : Procedure σ ρ α).Fails session failure after ↔
      ∃ error, value = .error error ∧ failure = .error error ∧ after = session := by
  cases value with
  | error e => simp [check]
  | ok b => simp [check]

theorem answers_reserve_iff {rows : Nat} {u : Unit} :
    (reserve rows : Procedure σ ρ Unit).Answers session u after ↔
      rows ≤ maxRows ∧ after = session := by
  unfold reserve
  split_ifs with h
  · simp [h]
  · change (Except.error Failure.outOfMemory, session) = (Except.ok u, after) ↔ _
    simp [h]

theorem fails_reserve_iff {rows : Nat} :
    (reserve rows : Procedure σ ρ Unit).Fails session failure after ↔
      maxRows < rows ∧ failure = .outOfMemory ∧ after = session := by
  unfold reserve
  split_ifs with h
  · simp [Nat.not_lt.mpr h]
  · change (Except.error Failure.outOfMemory, session) = (Except.error failure, after) ↔ _
    simp [Nat.lt_of_not_le h, eq_comm]

theorem not_fails_draw {request : ρ → α × ρ} :
    ¬ (draw request : Procedure σ ρ α).Fails session failure after := by
  change ¬ (Except.ok _, _) = (Except.error failure, after)
  simp

theorem check_map (f : α → β) (value : Except Error α) :
    (check (value.map f) : Procedure σ ρ β) = do return f (← check value) := by
  cases value <;> rfl

theorem expect_map (f : α → β) (value : Option α) :
    (expect (value.map f) : Procedure σ ρ β) = do return f (← expect value) := by
  cases value <;> rfl

/-- The session after a call of the point store. -/
def afterCall (request : σ → Reply α × σ) (session : Session σ ρ) : Session σ ρ :=
  { session with
    store := (request session.store).2
    events := session.events ++ (request session.store).1.events }

theorem runIn_call (request : σ → Reply α × σ) (session : Session σ ρ) :
    (call request).runIn session =
      ((request session.store).1.outcome.mapError Failure.error, afterCall request session) := by
  change (check (request session.store).1.outcome).runIn (afterCall request session) = _
  cases (request session.store).1.outcome <;> rfl

theorem answers_call_iff {request : σ → Reply α × σ} {a : α} :
    (call request).Answers session a after ↔
      (request session.store).1.outcome = .ok a ∧ after = afterCall request session := by
  rw [Answers, runIn_call]
  cases (request session.store).1.outcome <;> simp [Except.mapError, eq_comm]

theorem fails_call_iff {request : σ → Reply α × σ} :
    (call request).Fails session failure after ↔
      ∃ error, (request session.store).1.outcome = .error error ∧ failure = .error error ∧
        after = afterCall request session := by
  rw [Fails, runIn_call]
  cases (request session.store).1.outcome <;> simp [Except.mapError, eq_comm]

/-- The session after a call of the point store with the random source. -/
def afterCallRandom (request : ρ → σ → Reply α × ρ × σ) (session : Session σ ρ) : Session σ ρ where
  store := (request session.random session.store).2.2
  random := (request session.random session.store).2.1
  events := session.events ++ (request session.random session.store).1.events

theorem runIn_callRandom (request : ρ → σ → Reply α × ρ × σ) (session : Session σ ρ) :
    (callRandom request).runIn session =
      ((request session.random session.store).1.outcome.mapError Failure.error,
        afterCallRandom request session) := by
  change (check (request session.random session.store).1.outcome).runIn
    (afterCallRandom request session) = _
  cases (request session.random session.store).1.outcome <;> rfl

theorem answers_callRandom_iff {request : ρ → σ → Reply α × ρ × σ} {a : α} :
    (callRandom request).Answers session a after ↔
      (request session.random session.store).1.outcome = .ok a ∧
        after = afterCallRandom request session := by
  rw [Answers, runIn_callRandom]
  cases (request session.random session.store).1.outcome <;> simp [Except.mapError, eq_comm]

theorem fails_callRandom_iff {request : ρ → σ → Reply α × ρ × σ} :
    (callRandom request).Fails session failure after ↔
      ∃ error, (request session.random session.store).1.outcome = .error error ∧
        failure = .error error ∧ after = afterCallRandom request session := by
  rw [Fails, runIn_callRandom]
  cases (request session.random session.store).1.outcome <;> simp [Except.mapError, eq_comm]

theorem runIn_checkpointed (checkpoint : Checkpoint) (procedure : Procedure σ ρ α)
    (session : Session σ ρ) :
    (checkpointed checkpoint procedure).runIn session =
      ((procedure.runIn session).1.mapError (Failure.mapError (Error.withCheckpoint checkpoint)),
        (procedure.runIn session).2) :=
  rfl

theorem answers_checkpointed_iff {checkpoint : Checkpoint} {procedure : Procedure σ ρ α} {a : α} :
    (checkpointed checkpoint procedure).Answers session a after ↔
      procedure.Answers session a after := by
  rw [Answers, Answers, runIn_checkpointed]
  rcases procedure.runIn session with ⟨failure | a, after⟩ <;> simp [Except.mapError]

theorem fails_checkpointed_iff {checkpoint : Checkpoint} {procedure : Procedure σ ρ α} :
    (checkpointed checkpoint procedure).Fails session failure after ↔
      ∃ cause, procedure.Fails session cause after ∧
        failure = cause.mapError (Error.withCheckpoint checkpoint) := by
  simp only [Fails, runIn_checkpointed]
  rcases procedure.runIn session with ⟨failure | a, after⟩ <;>
    simp [Except.mapError, eq_comm, and_comm]

theorem runIn_withRandom (random : ρ) (procedure : Procedure σ ρ α) (session : Session σ ρ) :
    (withRandom random procedure).runIn session =
      ((procedure.runIn { session with random }).1,
        { (procedure.runIn { session with random }).2 with random := session.random }) :=
  rfl

theorem answers_withRandom_iff {random : ρ} {procedure : Procedure σ ρ α} {a : α} :
    (withRandom random procedure).Answers session a after ↔
      ∃ behind, procedure.Answers { session with random } a behind ∧
        after = { behind with random := session.random } := by
  simp only [Answers, runIn_withRandom]
  rcases procedure.runIn { session with random } with ⟨failure | a, behind⟩ <;> simp [eq_comm]

end Steps

/-! ## One procedure for each element of a list -/

section Lists

variable {session after : Session σ ρ} {failure : Failure} {f : α → Procedure σ ρ β}

theorem forall₂_of_answers_mapM {l : List α} {bs : List β}
    (h : (l.mapM f).Answers session bs after) :
    List.Forall₂ (fun a b => ∃ before behind, (f a).Answers before b behind) l bs := by
  induction l generalizing session bs with
  | nil =>
      rw [List.mapM_nil, answers_pure_iff] at h
      rw [h.1]
      exact .nil
  | cons a l ih =>
      simp only [List.mapM_cons, answers_bind_iff, answers_pure_iff] at h
      obtain ⟨b, between, hhead, bs, _, htail, rfl, rfl⟩ := h
      exact .cons ⟨_, _, hhead⟩ (ih htail)

theorem exists_mem_right_of_forall₂ {R : α → β → Prop} {l : List α} {bs : List β}
    (h : List.Forall₂ R l bs) {a : α} (ha : a ∈ l) : ∃ b ∈ bs, R a b := by
  induction h with
  | nil => cases ha
  | cons hab _ ih =>
      rcases List.mem_cons.mp ha with rfl | hmem
      · exact ⟨_, List.mem_cons_self, hab⟩
      · obtain ⟨b, hb, hR⟩ := ih hmem
        exact ⟨b, List.mem_cons_of_mem _ hb, hR⟩

theorem exists_mem_left_of_forall₂ {R : α → β → Prop} {l : List α} {bs : List β}
    (h : List.Forall₂ R l bs) {b : β} (hb : b ∈ bs) : ∃ a ∈ l, R a b :=
  exists_mem_right_of_forall₂ h.flip hb

/-- A list of procedures fails in the first of them that does. -/
theorem fails_mapM_iff {l : List α} :
    (l.mapM f).Fails session failure after ↔
      ∃ done a rest bs between, l = done ++ a :: rest ∧
        (done.mapM f).Answers session bs between ∧ (f a).Fails between failure after := by
  induction l generalizing session with
  | nil => simp
  | cons a l ih =>
      simp only [List.mapM_cons, fails_bind_iff, not_fails_pure, and_false, exists_false,
        or_false, ih]
      constructor
      -- Either the head fails, or it answers and the failing element is in the tail.
      · rintro (hhead | ⟨b, between, hhead, done, a', rest, bs, further, rfl, hdone, hfails⟩)
        · exact ⟨[], a, l, [], session, rfl, by simp, hhead⟩
        · refine ⟨a :: done, a', rest, b :: bs, further, rfl, ?_, hfails⟩
          rw [List.mapM_cons, answers_bind_iff]
          exact ⟨b, between, hhead, answers_bind_iff.mpr ⟨bs, further, hdone, by simp⟩⟩
      · rintro ⟨_ | ⟨a'', done⟩, a', rest, bs, between, hl, hdone, hfails⟩
        · obtain ⟨rfl, rfl⟩ := List.cons.inj hl
          rw [List.mapM_nil, answers_pure_iff] at hdone
          exact .inl (hdone.2 ▸ hfails)
        · obtain ⟨rfl, rfl⟩ := List.cons.inj hl
          simp only [List.mapM_cons, answers_bind_iff, answers_pure_iff] at hdone
          obtain ⟨b, middle, hhead, bs', _, hdone, -, rfl⟩ := hdone
          exact .inr ⟨b, middle, hhead, done, a', rest, bs', _, rfl, hdone, hfails⟩

theorem mapM_congr {g : α → Procedure σ ρ β} {l : List α} (h : ∀ a ∈ l, f a = g a) :
    l.mapM f = l.mapM g := by
  induction l with
  | nil => rfl
  | cons a l ih =>
      obtain ⟨ha, hl⟩ := List.forall_mem_cons.mp h
      rw [List.mapM_cons, List.mapM_cons, ha, ih hl]

theorem expect_mapM (f : α → Option β) (l : List α) :
    (expect (l.mapM f) : Procedure σ ρ (List β)) = l.mapM fun a => expect (f a) := by
  induction l with
  | nil => rfl
  | cons a l ih =>
      rw [List.mapM_cons, List.mapM_cons, ← ih]
      cases f a with
      | none => rfl
      | some b => cases l.mapM f <;> rfl

end Lists

/-! ## Procedures that end alike -/

/-- The procedures have the same outcome, each in a session of its own. -/
def Alike (procedure other : Procedure σ ρ α) : Prop :=
  ∀ first second, procedure.outcome first = other.outcome second

section Alike

variable {procedure other : Procedure σ ρ α} {session after : Session σ ρ}

theorem Alike.answers (h : procedure.Alike other) {a : α}
    (hanswers : procedure.Answers session a after) (session' : Session σ ρ) :
    ∃ after', other.Answers session' a after' := by
  apply outcome_eq_ok_iff.mp
  rw [← h session session']
  exact hanswers.outcome_eq

theorem Alike.fails (h : procedure.Alike other) {failure : Failure}
    (hfails : procedure.Fails session failure after) (session' : Session σ ρ) :
    ∃ after', other.Fails session' failure after' := by
  apply outcome_eq_error_iff.mp
  rw [← h session session']
  exact hfails.outcome_eq

theorem alike_pure (a : α) : (pure a : Procedure σ ρ α).Alike (pure a) :=
  fun _ _ => rfl

theorem alike_call {request request' : σ → Reply α × σ}
    (h : ∀ first second, (request first).1.outcome = (request' second).1.outcome) :
    (call request : Procedure σ ρ α).Alike (call request') := by
  intro first second
  rw [outcome, outcome, runIn_call, runIn_call, h first.store second.store]

theorem Alike.bind {next next' : α → Procedure σ ρ β} (h : procedure.Alike other)
    (hnext : ∀ a, (next a).Alike (next' a)) : (procedure >>= next).Alike (other >>= next') := by
  intro first second
  have houtcome : (procedure.runIn first).1 = (other.runIn second).1 := h first second
  simp only [outcome, runIn_bind]
  revert houtcome
  rcases procedure.runIn first with ⟨failure | a, between⟩ <;>
    rcases other.runIn second with ⟨failure' | a', between'⟩ <;> intro houtcome <;>
    cases houtcome
  · rfl
  · exact hnext _ _ _

theorem Alike.mapM {f f' : α → Procedure σ ρ β} (h : ∀ a, (f a).Alike (f' a)) (l : List α) :
    (l.mapM f).Alike (l.mapM f') := by
  induction l with
  | nil => exact alike_pure []
  | cons a l ih =>
      rw [List.mapM_cons, List.mapM_cons]
      apply (h a).bind
      intro b
      apply ih.bind
      intro bs
      exact alike_pure (b :: bs)

end Alike

/-! ## Steady procedures -/

/-- The outcome of a steady procedure is the same in all sessions. -/
def Steady (procedure : Procedure σ ρ α) : Prop :=
  ∀ first second, procedure.outcome first = procedure.outcome second

/-- A steady procedure ends like itself. -/
theorem Steady.alike {procedure : Procedure σ ρ α} (h : procedure.Steady) :
    procedure.Alike procedure :=
  h

section Steady

variable {procedure : Procedure σ ρ α}

/-- A steady procedure that answers in one session gives the same answer in any
other. -/
theorem Steady.answers (hsteady : procedure.Steady) {session after : Session σ ρ} {a : α}
    (h : procedure.Answers session a after) (other : Session σ ρ) :
    ∃ behind, procedure.Answers other a behind :=
  hsteady.alike.answers h other

theorem steady_pure (a : α) : (pure a : Procedure σ ρ α).Steady :=
  fun _ _ => rfl

theorem steady_report (event : Event) : (report event : Procedure σ ρ Unit).Steady :=
  fun _ _ => rfl

theorem steady_expect (value : Option α) : (expect value : Procedure σ ρ α).Steady := by
  cases value <;> exact fun _ _ => rfl

theorem steady_call {request : σ → Reply α × σ}
    (h : ∀ first second, (request first).1.outcome = (request second).1.outcome) :
    (call request : Procedure σ ρ α).Steady :=
  alike_call h

theorem Steady.bind {next : α → Procedure σ ρ β} (hprocedure : procedure.Steady)
    (hnext : ∀ a, (next a).Steady) : (procedure >>= next).Steady :=
  hprocedure.alike.bind fun a => (hnext a).alike

theorem Steady.checkpointed (hsteady : procedure.Steady) (checkpoint : Checkpoint) :
    (Procedure.checkpointed checkpoint procedure).Steady := by
  intro first second
  rw [outcome, outcome, runIn_checkpointed, runIn_checkpointed]
  exact congrArg (Except.mapError _) (hsteady first second)

theorem Steady.mapM {f : α → Procedure σ ρ β} (hf : ∀ a, (f a).Steady) (l : List α) :
    (l.mapM f).Steady :=
  Alike.mapM (fun a => (hf a).alike) l

end Steady

end SampledKmeans.Procedure
