import SampledKmeans.Session

/-!
# Overlapping calls

The calls that a procedure makes for the elements of a list may overlap.  They
take effect in some order, which need not be that of the list; a call that has
begun is gone through with, although another one has failed meanwhile; and of
several failures any one may be reported.

An `Overlap` says what comes of that: which elements are gone through ahead of
the others and in which order, and which of the failures among them is
reported.  The elements that are not ahead follow in the order of the list
until one fails.  With nothing ahead that is the whole list, one element after
another.
-/

namespace SampledKmeans

/-- How the calls for the elements of a list overlap. -/
structure Overlap where
  /-- The positions of the elements that are gone through ahead of the others,
  in this order. -/
  ahead : List Nat := []
  /-- No element is gone through twice. -/
  nodup : ahead.Nodup := by decide
  /-- The place of the failure that is reported among those of the elements
  that are ahead.  If there are not as many, it is the first. -/
  reported : Nat := 0
  deriving DecidableEq

namespace Overlap

variable {α β : Type}

/-- The elements that are gone through ahead, with their positions. -/
def early (overlap : Overlap) (l : List α) : List (Nat × α) :=
  overlap.ahead.filterMap fun i => l[i]?.map fun a => (i, a)

/-- The failures among some results, in their order. -/
def failures : List (Except Failure β) → List Failure
  | [] => []
  | .error failure :: results => failure :: failures results
  | .ok _ :: results => failures results

/-- The failure that is reported, if there is one. -/
def failure? (overlap : Overlap) (results : List (Except Failure β)) : Option Failure :=
  (failures results)[overlap.reported]?.or (failures results).head?

/-- The answer at a position, if it was among those ahead. -/
def answer? (tried : List (Nat × Except Failure β)) (position : Nat) : Option β :=
  (tried.lookup position).bind Except.toOption

end Overlap

/-- How the means of a refinement overlap, depending on the number of iterations
before. -/
abbrev Overlaps :=
  Nat → Overlap

/-- No means overlap. -/
def Overlaps.none : Overlaps :=
  fun _ => {}

/-- In some iteration there are means ahead of others. -/
def Overlaps.Parallel (overlaps : Overlaps) : Prop :=
  ∃ iterations, (overlaps iterations).ahead ≠ []

namespace Procedure

variable {σ ρ α β : Type}

/-- The outcome of a procedure, which may be a failure. -/
def attempt (procedure : Procedure σ ρ α) : Procedure σ ρ (Except Failure α) := fun session =>
  let (result, after) := procedure session
  (.ok result, after)

/-- The outcome for an element, beside its position. -/
def attemptAt (f : α → Procedure σ ρ β) (entry : Nat × α) :
    Procedure σ ρ (Nat × Except Failure β) := do
  let result ← attempt (f entry.2)
  return (entry.1, result)

/-- The answer for an element: the one there is, or else a new one. -/
def answerOr (tried : List (Nat × Except Failure β)) (f : α → Procedure σ ρ β) (entry : α × Nat) :
    Procedure σ ρ β :=
  (Overlap.answer? tried entry.2).elim (f entry.1) pure

/-- Goes through a list, with calls that overlap. -/
def mapOverlapping (overlap : Overlap) (f : α → Procedure σ ρ β) (l : List α) :
    Procedure σ ρ (List β) := do
  let tried ← (overlap.early l).mapM (attemptAt f)
  match overlap.failure? (tried.map Prod.snd) with
  | some failure => throw failure
  | none => l.zipIdx.mapM (answerOr tried f)

end Procedure

end SampledKmeans
