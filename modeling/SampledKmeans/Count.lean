/-!
# Counts and the room for lists

Counts, sizes and the identifiers of centroids fit into a machine word of 64
bits.  The library computes with natural numbers; where a result may not fit,
it says which of two ways is taken: a capped count stays at the largest one, and
a wrapped count starts again from zero.

A list takes at most `maxBytes` bytes.  Where a caller names the length of a list
that is to be made, the length is compared with the number of elements for which
there is room.
-/

-- Powers of numbers are those of core, also where a library adds the powers of a monoid.
attribute [instance (2000), default_instance 20000] instPowNat

namespace SampledKmeans

/-- The largest count. -/
def maxCount : Nat := 2 ^ 64 - 1

/-- A number as a count, or the largest count when it does not fit. -/
def capCount (n : Nat) : Nat :=
  min n maxCount

/-- A number as a count, less the multiples of `2 ^ 64` that do not fit. -/
def wrapCount (n : Nat) : Nat :=
  n % (maxCount + 1)

theorem wrapCount_of_le {n : Nat} (h : n ≤ maxCount) : wrapCount n = n :=
  Nat.mod_eq_of_lt (Nat.lt_succ_of_le h)

/-! ## Room -/

/-- The largest number of bytes that a list may take. -/
def maxBytes : Nat := 2 ^ 63 - 1

/-- The largest number of numbers in a list.  A number takes a word of eight
bytes. -/
def maxNumbers : Nat := maxBytes / 8

/-- The largest number of points, or of centroids, in a list.  Each takes seven
words: one is the identifier, and each of the two lists of a position takes
three. -/
def maxRows : Nat := maxBytes / (7 * 8)

end SampledKmeans
