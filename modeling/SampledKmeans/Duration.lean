import SampledKmeans.Count

/-!
# Durations

Time limits and elapsed times, counted in whole nanoseconds.  A limit is
written with the largest unit of which it holds at least one, and with as many
decimals as it needs; the time that a whole job took is written in minutes and
seconds.
-/

namespace SampledKmeans

/-- A length of time. -/
structure Duration where
  nanoseconds : Nat
  deriving DecidableEq, Repr

namespace Duration

instance : LT Duration := ⟨fun a b => a.nanoseconds < b.nanoseconds⟩

instance (a b : Duration) : Decidable (a < b) :=
  inferInstanceAs (Decidable (a.nanoseconds < b.nanoseconds))

/-- The duration of a number of milliseconds. -/
def ofMilliseconds (ms : Nat) : Duration :=
  ⟨ms * 10 ^ 6⟩

/-- The duration of a number of seconds and a number of nanoseconds; `none` when
its whole seconds exceed the largest count. -/
def ofParts? (seconds nanoseconds : Nat) : Option Duration :=
  if seconds + nanoseconds / 10 ^ 9 ≤ maxCount then
    some ⟨seconds * 10 ^ 9 + nanoseconds⟩
  else
    none

/-- Whole milliseconds of a duration; what is left over is dropped. -/
def milliseconds (d : Duration) : Nat :=
  d.nanoseconds / 10 ^ 6

/-- A natural number with leading zeros up to a width. -/
def padded (width n : Nat) : String :=
  let digits := Nat.toDigits 10 n
  String.ofList (List.replicate (width - digits.length) '0' ++ digits)

/-- A count of `10 ^ places`-th parts as a decimal without trailing zeros. -/
def decimalText (places n : Nat) : String :=
  let trimmed := (padded places (n % 10 ^ places)).toList.reverse.dropWhile (· == '0')
  let whole := toString (n / 10 ^ places)
  if trimmed.isEmpty then whole else whole ++ "." ++ String.ofList trimmed.reverse

/-- The duration in its largest unit. -/
def text (d : Duration) : String :=
  if 10 ^ 9 ≤ d.nanoseconds then
    decimalText 9 d.nanoseconds ++ "s"
  else if 10 ^ 6 ≤ d.nanoseconds then
    decimalText 6 d.nanoseconds ++ "ms"
  else if 10 ^ 3 ≤ d.nanoseconds then
    decimalText 3 d.nanoseconds ++ "µs"
  else
    toString d.nanoseconds ++ "ns"

/-- The duration in minutes and seconds, to the microsecond. -/
def minutesText (d : Duration) : String :=
  let seconds := d.nanoseconds / 10 ^ 9
  toString (seconds / 60) ++ " minutes " ++ toString (seconds % 60) ++ "." ++
    padded 6 (d.nanoseconds % 10 ^ 9 / 10 ^ 3) ++ " seconds"

end Duration

end SampledKmeans
