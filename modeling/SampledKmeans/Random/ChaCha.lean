import SampledKmeans.Random.Source

/-!
# The ChaCha stream

The keystream of the ChaCha cipher with twelve rounds, as a random source.  A
block of sixteen words is a function of the key and of the number of the block;
the stream is the words of the blocks in order.  A short seed is stretched to a
key by a linear congruential generator whose output is permuted.
-/

namespace SampledKmeans

/-- A ChaCha stream: the key, the number of the next block, and the words that
are left of the current one. -/
structure ChaCha where
  key : Vector UInt32 8
  nextBlock : Nat := 0
  pending : List UInt32 := []

namespace ChaCha

/-- Rotates a word to the left. -/
def rotateLeft (x n : UInt32) : UInt32 :=
  (x <<< n) ||| (x >>> (32 - n))

/-- Rotates a word to the right. -/
def rotateRight (x n : UInt32) : UInt32 :=
  (x >>> n) ||| (x <<< (32 - n))

/-! ## Blocks -/

/-- Mixes four words of the state. -/
def quarterRound (state : Vector UInt32 16) (i j k l : Fin 16) : Vector UInt32 16 :=
  let a := state[i] + state[j]
  let d := rotateLeft (state[l] ^^^ a) 16
  let c := state[k] + d
  let b := rotateLeft (state[j] ^^^ c) 12
  let a := a + b
  let d := rotateLeft (d ^^^ a) 8
  let c := c + d
  let b := rotateLeft (b ^^^ c) 7
  (((state.set i a).set j b).set k c).set l d

/-- A round over the columns of the state and one over its diagonals. -/
def doubleRound (state : Vector UInt32 16) : Vector UInt32 16 :=
  let state := quarterRound state 0 4 8 12
  let state := quarterRound state 1 5 9 13
  let state := quarterRound state 2 6 10 14
  let state := quarterRound state 3 7 11 15
  let state := quarterRound state 0 5 10 15
  let state := quarterRound state 1 6 11 12
  let state := quarterRound state 2 7 8 13
  quarterRound state 3 4 9 14

/-- The state that a block starts from: four constant words, the key, the
number of the block in two words, and two words of zero. -/
def initialState (key : Vector UInt32 8) (block : Nat) : Vector UInt32 16 :=
  #v[0x61707865, 0x3320646e, 0x79622d32, 0x6b206574,
    key[0], key[1], key[2], key[3], key[4], key[5], key[6], key[7],
    UInt32.ofNat block, UInt32.ofNat (block / 2 ^ 32), 0, 0]

/-- The words of a block. -/
def block (key : Vector UInt32 8) (number : Nat) : Vector UInt32 16 :=
  let start := initialState key number
  let mixed := Nat.repeat doubleRound 6 start
  mixed.zipWith (· + ·) start

/-! ## The stream -/

/-- The next word of the stream. -/
def next (stream : ChaCha) : UInt32 × ChaCha :=
  match stream.pending with
  | word :: rest => (word, { stream with pending := rest })
  | [] =>
    let words := block stream.key stream.nextBlock
    (words[0], { stream with nextBlock := stream.nextBlock + 1, pending := words.toList.tail })

instance : RandomSource ChaCha where
  word32 := next
  word64 stream :=
    let (low, stream) := stream.next
    let (high, stream) := stream.next
    (low.toUInt64 ||| (high.toUInt64 <<< 32), stream)

/-! ## Seeds -/

/-- One step of the congruential generator. -/
def stretchStep (state : UInt64) : UInt64 :=
  state * 6364136223846793005 + 11634580027462260723

/-- The output of the congruential generator in a state. -/
def stretchWord (state : UInt64) : UInt32 :=
  rotateRight (((state >>> 18) ^^^ state) >>> 27).toUInt32 (state >>> 59).toUInt32

/-- The stream of a seed. -/
def ofSeed (seed : UInt64) : ChaCha :=
  { key := Vector.ofFn fun i : Fin 8 => stretchWord (Nat.repeat stretchStep (i + 1) seed) }

end ChaCha

end SampledKmeans
