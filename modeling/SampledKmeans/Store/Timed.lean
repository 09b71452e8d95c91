import SampledKmeans.Store.Basic

/-!
# Time limits

`PointStore.timed` wraps a store.  Every call that fails is reported as a
storage error, and so is every call that takes longer than the limit, although
it was answered.  A scan ends with its first failing or late item, whatever the
wrapped store still holds.
-/

namespace SampledKmeans

/-- The items of a scan up to and including the first one that fails or is
late. -/
def Reply.untilFailure (limit : Option Duration) : List (Reply Point) → List (Reply Point)
  | [] => []
  | item :: rest =>
    let item := item.guarded "scan" limit
    match item.outcome with
    | .ok _ => item :: untilFailure limit rest
    | .error _ => [item]

/-- A mean reply under a time limit.  That there is nothing to average is the
caller's mistake and stays what it is. -/
def Reply.guardedMean (limit : Option Duration) (reply : Reply SparseVector) :
    Reply SparseVector :=
  match reply.outcome with
  | .error .emptyInput => reply
  | _ => reply.guarded "mean" limit

namespace PointStore

variable {σ ρ : Type}

/-- A store whose calls are bounded by a time limit, if there is one. -/
def timed (limit : Option Duration) (store : PointStore σ ρ) : PointStore σ ρ where
  sample n source state :=
    let (reply, source, state) := store.sample n source state
    (reply.guarded "sample" limit, source, state)
  scan state :=
    let (reply, state) := store.scan state
    let reply := reply.guarded "scan" limit
    ({ reply with outcome := reply.outcome.map (Reply.untilFailure limit) }, state)
  count state :=
    let (reply, state) := store.count state
    (reply.guarded "count" limit, state)
  metric := store.metric
  mean positions state :=
    let (reply, state) := store.mean positions state
    (reply.guardedMean limit, state)

end PointStore

/-! ## Readers of a timed scan

The items of a scan are asked for one at a time.  `Reply.untilFailure` lists what a
`Cursor` gives from the start on. -/

/-- Where the reader of a timed scan has come to. -/
structure Cursor where
  /-- The items that the wrapped scan still holds. -/
  rest : List (Reply Point)
  /-- Whether an item has failed. -/
  failed : Bool := false

namespace Cursor

/-- Asks for the next item. -/
def pull (limit : Option Duration) (cursor : Cursor) : Option (Reply Point) × Cursor :=
  if cursor.failed then (none, cursor)
  else
    match cursor.rest with
    | [] => (none, cursor)
    | item :: rest =>
      let item := item.guarded "scan" limit
      (some item, { rest, failed := !item.outcome.isOk })

/-- The answer to a pull, named by the number of pulls before it. -/
def pullAt (limit : Option Duration) : Nat → Cursor → Option (Reply Point)
  | 0, cursor => (cursor.pull limit).1
  | n + 1, cursor => pullAt limit n (cursor.pull limit).2

/-- What the cursor still has to give. -/
def items (limit : Option Duration) (cursor : Cursor) : List (Reply Point) :=
  if cursor.failed then [] else Reply.untilFailure limit cursor.rest

end Cursor

end SampledKmeans
