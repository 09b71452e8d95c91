import SampledKmeans.Random.Source

/-!
# Random subsets of positions

`subset n amount` draws `amount` different positions below `n`, in random order
and with equal chances.  Three ways of drawing share the work: for few
positions each draw comes from a range that grows by one (`growing`), for many
positions out of not many more a list of all positions is partly shuffled
(`shuffled`), and for a sparse choice positions are drawn until they are new
(`rejecting`).  Which one is used depends on the two numbers alone.  That is the
sampler of every random source, unless another one is given.
-/

namespace SampledKmeans.RandomSource

variable {ρ : Type} [RandomSource ρ]

/-! ## Ranges that grow -/

/-- Adds a draw from `0 … j` to the positions drawn so far, which are all below
`j`.  A position that was drawn before gives its place to `j`. -/
def growStep (chosen : List Nat) (j : Nat) (source : ρ) : List Nat × ρ :=
  let (t, source) := below (j + 1) source
  let chosen := if t ∈ chosen then chosen.map fun p => if p = t then j else p else chosen
  (chosen ++ [t], source)

/-- Draws one position from each of the ranges `0 … start`, `0 … start + 1`,
and so on. -/
def growing : (amount start : Nat) → (chosen : List Nat) → ρ → List Nat × ρ
  | 0, _, chosen, source => (chosen, source)
  | amount + 1, start, chosen, source =>
    let (chosen, source) := growStep chosen start source
    growing amount (start + 1) chosen source

/-! ## Shuffles that stop early -/

/-- Shuffles the positions from `start` on: each of the next `amount` places is
swapped with one drawn from it and those behind it. -/
def shuffle : (amount start : Nat) → (positions : Array Nat) → ρ → Array Nat × ρ
  | 0, _, positions, source => (positions, source)
  | amount + 1, start, positions, source =>
    let (offset, source) := below (positions.size - start) source
    shuffle amount (start + 1) (positions.swapIfInBounds start (start + offset)) source

/-- The first `amount` of the shuffled positions below `n`. -/
def shuffled (n amount : Nat) (source : ρ) : List Nat × ρ :=
  let (positions, source) := shuffle amount 0 (Array.range n) source
  (positions.toList.take amount, source)

/-! ## Rejection -/

/-- The number of words after which a draw by rejection settles for the
smallest position that is not taken. -/
def patience : Nat :=
  2 ^ 40

/-- A position below `n` that is not taken. -/
def fresh (n : Nat) (taken : List Nat) : (tries : Nat) → ρ → Nat × ρ
  | 0, source => (((List.range n).find? fun p => !taken.contains p).getD 0, source)
  | tries + 1, source =>
    match attempt n source with
    | (some p, source) =>
      if taken.contains p then fresh n taken tries source else (p, source)
    | (none, source) => fresh n taken tries source

/-- Draws positions below `n` until `amount` of them are new.  The positions
drawn so far are given from the last to the first. -/
def rejecting (n : Nat) : (amount : Nat) → (taken : List Nat) → ρ → List Nat × ρ
  | 0, taken, source => (taken.reverse, source)
  | amount + 1, taken, source =>
    let (p, source) := fresh n taken patience source
    rejecting n amount (p :: taken) source

/-! ## The choice -/

/-- How a subset is drawn. -/
inductive Method where
  | growing
  | shuffled
  | rejecting
  deriving DecidableEq, Repr

/-- The way to draw `amount` of `n` positions.  The bounds are compared in
single precision; they differ for populations of half a million and more. -/
def method (n amount : Nat) : Method :=
  let large := decide (500000 ≤ n)
  let total := Float32.ofNat n
  let drawn := Float32.ofNat amount
  if amount < 163 then
    let slope : Float32 := if large then 8.0 / 45.0 else 1.6
    let base : Float32 := if large then 70.0 / 9.0 else 10.0
    if 11 < amount ∧ total < (base + slope * drawn) * drawn then .shuffled else .growing
  else
    let bound : Float32 := if large then 330.0 / 9.0 else 270.0
    if total < bound * drawn then .shuffled else .rejecting

/-- Draws `amount` different positions below `n`, where `amount ≤ n`. -/
def subset (n amount : Nat) (source : ρ) : List Nat × ρ :=
  match method n amount with
  | .growing => growing amount (n - amount) [] source
  | .shuffled => shuffled n amount source
  | .rejecting => rejecting n amount [] source

instance : Sampler ρ where
  subset := subset

end SampledKmeans.RandomSource
