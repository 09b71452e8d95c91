import SampledKmeans.Store.Basic

/-!
# Records of calls

`PointStore.recorded` answers as another store does and keeps a record of its
calls with their replies, in the order in which they took effect.
-/

namespace SampledKmeans

/-- A call of a point store, with the reply that it got. -/
inductive Call where
  | count (reply : Reply Nat)
  | sample (n : Nat) (reply : Reply (List Point))
  | scan (reply : Reply (List (Reply Point)))
  | mean (positions : List SparseVector) (reply : Reply SparseVector)

/-- The name of the operation that a call asks for. -/
def Call.operation : Call → String
  | .count _ => "count"
  | .sample _ _ => "sample"
  | .scan _ => "scan"
  | .mean _ _ => "mean"

/-- The state of a store, with the calls that it was given, in order. -/
structure Recorded (σ : Type) where
  state : σ
  calls : List Call

variable {σ ρ : Type}

/-- A store that answers as another one and records its calls. -/
def PointStore.recorded (store : PointStore σ ρ) : PointStore (Recorded σ) ρ where
  sample n source recorded :=
    let (reply, source, state) := store.sample n source recorded.state
    (reply, source, ⟨state, recorded.calls ++ [.sample n reply]⟩)
  scan recorded :=
    let (reply, state) := store.scan recorded.state
    (reply, ⟨state, recorded.calls ++ [.scan reply]⟩)
  count recorded :=
    let (reply, state) := store.count recorded.state
    (reply, ⟨state, recorded.calls ++ [.count reply]⟩)
  metric := store.metric
  mean positions recorded :=
    let (reply, state) := store.mean positions recorded.state
    (reply, ⟨state, recorded.calls ++ [.mean positions reply]⟩)

/-- A session with a record of the calls so far. -/
def Session.recording (session : Session σ ρ) (calls : List Call) : Session (Recorded σ) ρ where
  store := ⟨session.store, calls⟩
  random := session.random
  events := session.events

end SampledKmeans
