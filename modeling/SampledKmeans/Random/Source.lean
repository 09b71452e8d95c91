import SampledKmeans.Count

/-!
# Random sources

A source yields 32-bit and 64-bit words and the source that follows.  Draws of
other shapes, a number in `[0, 1)` or a number in a range, are functions of
those words.

How positions are drawn at random is left open: a `Sampler` makes them out of the
source, their range and their number, and clustering relies on nothing but what
`LawfulSampler` says of them.
-/

namespace SampledKmeans

/-- A stream of random words. -/
class RandomSource (ρ : Type) where
  /-- The next 32-bit word and the source after it. -/
  word32 : ρ → UInt32 × ρ
  /-- The next 64-bit word and the source after it. -/
  word64 : ρ → UInt64 × ρ

namespace RandomSource

variable {ρ : Type} [RandomSource ρ]

/-- A number in `[0, 1)`: the upper 53 bits of a word as a fraction. -/
def unit (source : ρ) : Float × ρ :=
  let (word, source) := word64 source
  ((word >>> 11).toFloat * (1.0 / 9007199254740992.0), source)

/-- A number below `range`.  A word is scaled to the range; when the part that
the scaling cuts off is so large that the next word could still carry into the
result, that word is drawn as well. -/
def below (range : Nat) (source : ρ) : Nat × ρ :=
  let (word, source) := word32 source
  let product := word.toNat * range
  let result := product / 2 ^ 32
  let rest := product % 2 ^ 32
  if (2 ^ 32 - range) % 2 ^ 32 < rest then
    let (word, source) := word32 source
    let carry := word.toNat * range / 2 ^ 32
    (if 2 ^ 32 ≤ rest + carry then result + 1 else result, source)
  else
    (result, source)

/-- One attempt at a number below `range` with exactly equal chances: `none`
when the word falls into the part of the words that would favour some
numbers. -/
def attempt (range : Nat) (source : ρ) : Option Nat × ρ :=
  let (word, source) := word32 source
  let product := word.toNat * range
  if product % 2 ^ 32 < (2 ^ 32 - range) % range then
    (none, source)
  else
    (some (product / 2 ^ 32), source)

end RandomSource

/-! ## Samplers -/

/-- A way to draw positions without replacement. -/
class Sampler (ρ : Type) where
  /-- So many of the positions below a bound, and the source after them. -/
  subset : (n amount : Nat) → ρ → List Nat × ρ

/-- The positions that are drawn are as many as were asked for, lie below the bound, and
are different, provided there are as many. -/
class LawfulSampler (ρ : Type) [Sampler ρ] : Prop where
  length_subset {n amount : Nat} (h : amount ≤ n) (source : ρ) :
    (Sampler.subset n amount source).1.length = amount
  lt_of_mem_subset {n amount : Nat} (h : amount ≤ n) (source : ρ) :
    ∀ p ∈ (Sampler.subset n amount source).1, p < n
  nodup_subset {n amount : Nat} (h : amount ≤ n) (source : ρ) :
    (Sampler.subset n amount source).1.Nodup

end SampledKmeans
