import SampledKmeans.Count
import SampledKmeans.Duration
import SampledKmeans.Failure
import SampledKmeans.Event

/-!
# Procedures

A procedure works in a session: the state of the point store, a random source,
and the events reported so far.  It answers or fails; the session it leaves
behind is known in both cases.

Calls to a backend are answered by a `Reply`, which also says how long the call
took, so that time limits are a matter of comparing numbers.
-/

namespace SampledKmeans

/-- What a backend answered to a call. -/
structure Reply (α : Type) where
  /-- The answer, or why there is none. -/
  outcome : Except Error α
  /-- The time from the call to the answer. -/
  elapsed : Duration := ⟨1⟩
  /-- What the backend reported meanwhile. -/
  events : List Event := []

namespace Reply

variable {α : Type}

/-- An immediate answer. -/
def ok (a : α) : Reply α :=
  { outcome := .ok a }

/-- The error of a call that exceeded a time limit. -/
def overrun (operation : String) (limit : Duration) : Error :=
  .storageUnavailable operation ("call exceeded timeout of " ++ limit.text) none

/-- Refuses an answer that took longer than the limit. -/
def within (operation : String) (limit : Option Duration) (reply : Reply α) : Reply α :=
  { reply with
    outcome := do
      let a ← reply.outcome
      match limit with
      | some limit => if limit < reply.elapsed then .error (overrun operation limit) else .ok a
      | none => .ok a }

/-- Changes the error of a reply. -/
def mapError (f : Error → Error) (reply : Reply α) : Reply α :=
  { reply with outcome := reply.outcome.mapError f }

/-- Reports every failure as a storage error of the operation, and refuses an
answer that took longer than the limit. -/
def guarded (operation : String) (limit : Option Duration) (reply : Reply α) : Reply α :=
  (reply.mapError (Error.asUnavailable operation)).within operation limit

end Reply

/-- The state that procedures work on. -/
structure Session (σ ρ : Type) where
  /-- The state of the point store. -/
  store : σ
  /-- The source of all randomness. -/
  random : ρ
  /-- The events reported so far, in order. -/
  events : Array Event := #[]

/-- A computation in a session that answers or fails. -/
abbrev Procedure (σ ρ : Type) :=
  ExceptT Failure (StateM (Session σ ρ))

namespace Procedure

variable {σ ρ α : Type}

/-- Fails with an error. -/
def fail (error : Error) : Procedure σ ρ α :=
  throw (.error error)

/-- The answer of a computation that needs no session. -/
def check : Except Error α → Procedure σ ρ α
  | .ok a => pure a
  | .error e => fail e

/-- The element of a list that was read, provided it was there. -/
def expect : Option α → Procedure σ ρ α
  | some a => pure a
  | none => throw .outOfRange

/-- Makes room for a list of points or centroids. -/
def reserve (rows : Nat) : Procedure σ ρ Unit :=
  if rows ≤ maxRows then pure () else throw .outOfMemory

/-- Reports an event. -/
def report (event : Event) : Procedure σ ρ Unit :=
  modify fun session => { session with events := session.events.push event }

/-- Calls the point store. -/
def call (request : σ → Reply α × σ) : Procedure σ ρ α := do
  let session ← get
  let (reply, store) := request session.store
  set { session with store, events := session.events ++ reply.events }
  check reply.outcome

/-- Calls the point store with the random source at hand. -/
def callRandom (request : ρ → σ → Reply α × ρ × σ) : Procedure σ ρ α := do
  let session ← get
  let (reply, random, store) := request session.random session.store
  set { session with store, random, events := session.events ++ reply.events }
  check reply.outcome

/-- Draws from the random source. -/
def draw (request : ρ → α × ρ) : Procedure σ ρ α :=
  modifyGet fun session =>
    let (a, random) := request session.random
    (a, { session with random })

/-- Runs a procedure with a random source of its own; the source of the session
is the same afterwards. -/
def withRandom (random : ρ) (procedure : Procedure σ ρ α) : Procedure σ ρ α := fun session =>
  let (result, after) := procedure { session with random }
  (result, { after with random := session.random })

/-- Attaches a checkpoint to the storage errors of a procedure. -/
def checkpointed (checkpoint : Checkpoint) (procedure : Procedure σ ρ α) : Procedure σ ρ α :=
  ExceptT.adapt (Failure.mapError (Error.withCheckpoint checkpoint)) procedure

end Procedure

end SampledKmeans
