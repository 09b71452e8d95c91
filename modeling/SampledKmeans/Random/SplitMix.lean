import SampledKmeans.Random.ChaCha

/-!
# SplitMix and replayed words

A small generator whose state is a counter, and which can be given words to
yield before its own.  `Generator` is the choice between it and a ChaCha
stream.
-/

namespace SampledKmeans

/-- A SplitMix generator, and the words that come before its own. -/
structure SplitMix where
  state : UInt64 := 0
  queued : List UInt64 := []
  deriving DecidableEq, Repr

namespace SplitMix

/-- The next 64-bit word. -/
def next (source : SplitMix) : UInt64 × SplitMix :=
  match source.queued with
  | word :: rest => (word, { source with queued := rest })
  | [] =>
    let state := source.state + 0x9e3779b97f4a7c15
    let z := (state ^^^ (state >>> 30)) * 0xbf58476d1ce4e5b9
    let z := (z ^^^ (z >>> 27)) * 0x94d049bb133111eb
    (z ^^^ (z >>> 31), { source with state })

instance : RandomSource SplitMix where
  word32 source :=
    let (word, source) := source.next
    (word.toUInt32, source)
  word64 := next

end SplitMix

/-- A random source of either kind. -/
inductive Generator where
  | chaCha (stream : ChaCha)
  | splitMix (source : SplitMix)

instance : RandomSource Generator where
  word32
    | .chaCha stream =>
      let (word, stream) := RandomSource.word32 stream
      (word, .chaCha stream)
    | .splitMix source =>
      let (word, source) := RandomSource.word32 source
      (word, .splitMix source)
  word64
    | .chaCha stream =>
      let (word, stream) := RandomSource.word64 stream
      (word, .chaCha stream)
    | .splitMix source =>
      let (word, source) := RandomSource.word64 source
      (word, .splitMix source)

end SampledKmeans
