import SampledKmeans.Coverage
import SampledKmeans.Nearest
import SampledKmeans.Random.Source

/-!
# Seeding

The first centroid is a random point.  Each further one is drawn from a pool of
random candidates, large enough to contain a point of every cluster with high
confidence.  A candidate's score is its distance to the nearest centroid chosen
so far, times a random weight; the weight keeps the choice biased toward far
points without always taking the farthest.  Candidates that coincide with a
chosen centroid are never taken.  When a whole pool coincides with them, one
scan of the store looks for the farthest point that does not; if there is none,
seeding stops short.

Room for all centroids is made once the first one is known, whether or not there
will be so many.
-/

namespace SampledKmeans

/-- How centroids are seeded. -/
structure SeedPlan where
  /-- The number of centroids to seed. -/
  k : Nat
  /-- The confidence that sizes the pool of candidates. -/
  confidence : Float := defaultConfidence
  /-- The exponent of the random weight. -/
  exponent : Float := 0.2

/-- The outcome of seeding. -/
structure Seeding where
  /-- The number of centroids asked for. -/
  requested : Nat
  /-- The centroids that were seeded, numbered from one up. -/
  centroids : List Centroid
  deriving DecidableEq, Repr

namespace Seeding

/-- The number of centroids that were seeded. -/
def achieved (seeding : Seeding) : Nat :=
  seeding.centroids.length

/-- Whether fewer centroids were seeded than asked for. -/
def isShort (seeding : Seeding) : Bool :=
  seeding.achieved < seeding.requested

/-- Refuses a seeding that fell short. -/
def ensureComplete (seeding : Seeding) : Except Error Unit :=
  if seeding.isShort then .error (.seedingShortfall seeding.requested seeding.achieved) else .ok ()

end Seeding

/-! ## Choosing a candidate -/

/-- Of two keyed elements the one with the strictly greater key, and the first
one otherwise. -/
def greaterKey {α : Type} (best : Option (α × Float)) (next : α × Float) : Option (α × Float) :=
  match best with
  | none => some next
  | some best => if best.2 < next.2 then some next else some best

/-- The first element whose key is not exceeded by any other. -/
def firstGreatest? {α : Type} (keyed : List (α × Float)) : Option α :=
  (keyed.foldl greaterKey none).map Prod.fst

/-- A point that may become a centroid. -/
structure Candidate where
  point : Point
  /-- The distance to the nearest centroid chosen so far. -/
  distance : Float
  /-- The random number drawn for it. -/
  draw : Float

/-- Whether a candidate lies apart from the centroids chosen so far. -/
def Candidate.isApart (candidate : Candidate) : Bool :=
  !(candidate.distance ≤ 0.0)

/-- The score of a candidate. -/
def Candidate.score (exponent : Float) (candidate : Candidate) : Float :=
  candidate.distance * candidate.draw.pow exponent

/-- The candidate with the greatest score among those that lie apart. -/
def pickWeighted? (exponent : Float) (candidates : List Candidate) : Option Point :=
  (firstGreatest? ((candidates.filter Candidate.isApart).map fun c => (c, c.score exponent))).map
    Candidate.point

/-- The point with the greatest distance, among those whose distance is
positive. -/
def pickFarthest? (measured : List (Point × Float)) : Option Point :=
  firstGreatest? (measured.filter fun (_, d) => 0.0 < d)

/-! ## The procedure -/

namespace SeedPlan

variable {σ ρ : Type} [RandomSource ρ] (store : PointStore σ ρ)

/-- Measures a candidate and draws its random number.  Every candidate is drawn
for, so the random stream does not depend on which of them coincide. -/
def weigh (centroids : List Centroid) (point : Point) : Procedure σ ρ Candidate := do
  let draw ← Procedure.draw RandomSource.unit
  let distance ← store.minDistance point.position centroids
  return { point, distance, draw }

/-- The choice among some points: each is weighed, and the best of those that lie apart is
taken. -/
def pick (plan : SeedPlan) (centroids : List Centroid) (points : List Point) :
    Procedure σ ρ (Option Point) := do
  let candidates ← points.mapM (weigh store centroids)
  return pickWeighted? plan.exponent candidates

/-- The point farthest from all centroids, from a scan of the store. -/
def farthest? (centroids : List Centroid) : Procedure σ ρ (Option Point) := do
  let items ← store.openScan
  let measured ← items.mapM fun item => do
    let point ← Procedure.check item.outcome
    let distance ← store.minDistance point.position centroids
    return (point, distance)
  return pickFarthest? measured

/-- The point that becomes the next centroid: one of a sample, or else the farthest of
all. -/
def next? (plan : SeedPlan) (pool : Nat) (centroids : List Centroid) :
    Procedure σ ρ (Option Point) := do
  let points ← store.drawSample pool
  match ← plan.pick store centroids points with
  | some point => return some point
  | none => farthest? store centroids

/-- Adds up to `remaining` centroids. -/
def grow (plan : SeedPlan) (pool : Nat) :
    (remaining : Nat) → List Centroid → Procedure σ ρ (List Centroid)
  | 0, centroids => return centroids
  | remaining + 1, centroids => do
    match ← plan.next? store pool centroids with
    | some point =>
      plan.grow pool remaining (centroids ++ [⟨centroids.length + 1, point.position⟩])
    | none =>
      Procedure.report (.seedingShortfall plan.k centroids.length)
      return centroids

/-- Seeds centroids from a store. -/
def seed (plan : SeedPlan) : Procedure σ ρ Seeding := do
  let pool ← Procedure.check (coverage plan.k plan.confidence)
  match ← store.drawSample 1 with
  | [] => Procedure.fail .emptyInput
  | first :: _ =>
    Procedure.reserve plan.k
    let centroids ← plan.grow store (max pool 1) (plan.k - 1) [⟨1, first.position⟩]
    return { requested := plan.k, centroids }

end SeedPlan

end SampledKmeans
