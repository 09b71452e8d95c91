import SampledKmeans.Count

/-!
# The shortest decimal that reads back

A finite floating-point number stands for an exact value, and every decimal in
a small interval around that value reads back as the same number.  The printed
form of a number is the decimal of that interval with the fewest digits, and
of those the one nearest to the exact value.

## Strategy

Decimals with one last place form a grid.  The grids are tried from the
coarsest, whose step is the decade of the number, down to seventeen places
below it.  On a grid only the two neighbours of the exact value matter: if any
point of a grid lies in the interval, then one of these two does.  Everything
is exact arithmetic on natural numbers, so the functions are total and can be
evaluated inside proofs.
-/

namespace SampledKmeans.Decimal

/-- A magnitude in binary: `significand · 2 ^ exponent`. -/
structure Dyadic where
  significand : Nat
  exponent : Int
  deriving DecidableEq, Repr

/-- A magnitude in decimal: `significand · 10 ^ exponent`. -/
structure Decadic where
  significand : Nat
  exponent : Int
  deriving DecidableEq, Repr

/-- Which of two equally near decimals of equal length is chosen. -/
inductive Tie where
  /-- The one whose last digit is even. -/
  | even
  /-- The larger one. -/
  | up
  deriving DecidableEq, Repr

/-! ## The exact value and its interval -/

/-- The magnitude of a finite number, read off its bits. -/
def Dyadic.ofFloat (x : Float) : Dyadic :=
  let bits := x.toBits.toNat
  let field : Nat := bits / 2 ^ 52 % 2 ^ 11
  let trailing : Nat := bits % 2 ^ 52
  if field = 0 then ⟨trailing, -1074⟩ else ⟨2 ^ 52 + trailing, (field : Int) - 1075⟩

/-- The number of quarter units below the exact value up to which decimals read
back.  At the bottom of a binade the neighbour below is only half as far. -/
def Dyadic.quartersBelow (x : Dyadic) : Nat :=
  if x.significand = 2 ^ 52 ∧ -1074 < x.exponent then 1 else 2

/-- Natural numbers that make quarter units of a magnitude and steps of a
decimal grid comparable: one quarter unit is to one step as `quarter` is to
`step`. -/
structure Scale where
  quarter : Nat
  step : Nat

/-- The common scale of the quarter units of `x` and the grid of step
`10 ^ place`. -/
def Dyadic.scale (x : Dyadic) (place : Int) : Scale where
  quarter := 2 ^ (x.exponent - 2).toNat * 10 ^ (-place).toNat
  step := 2 ^ (2 - x.exponent).toNat * 10 ^ place.toNat

/-- Whether `digits · 10 ^ place` reads back as `x`: it lies in the interval
around `x`, whose ends belong to it when the significand is even. -/
def Dyadic.readsBack (x : Dyadic) (place : Int) (digits : Nat) : Bool :=
  let scale := x.scale place
  let low := (4 * x.significand - x.quartersBelow) * scale.quarter
  let high := (4 * x.significand + 2) * scale.quarter
  let point := digits * scale.step
  if x.significand % 2 = 0 then low ≤ point ∧ point ≤ high else low < point ∧ point < high

/-- Whether the upper neighbour of a value on a grid is chosen before the lower
one when both read back: it is nearer, or as near and favoured by the tie rule.
The value is given in steps, as a fraction. -/
def upperFirst (tie : Tie) (numerator denominator : Nat) : Bool :=
  let twice := 2 * (numerator % denominator)
  if twice = denominator then
    match tie with
    | .up => true
    | .even => numerator / denominator % 2 = 1
  else
    denominator < twice

/-- The point of the grid of step `10 ^ place` that reads back as `x` and is
nearest to it, if there is one. -/
def Dyadic.onGrid? (tie : Tie) (x : Dyadic) (place : Int) : Option Decadic :=
  let scale := x.scale place
  let value := 4 * x.significand * scale.quarter
  let lower := value / scale.step
  let upper := lower + 1
  match x.readsBack place lower, x.readsBack place upper with
  | true, true => some ⟨if upperFirst tie value scale.step then upper else lower, place⟩
  | true, false => some ⟨lower, place⟩
  | false, true => some ⟨upper, place⟩
  | false, false => none

/-! ## The search -/

/-- The decade of a positive magnitude: the greatest `e` with `10 ^ e` at most
the value.  Scaled by `10 ^ 330` every magnitude has an integral part, whose
digits are counted. -/
def Dyadic.decade (x : Dyadic) : Int :=
  let scaled := x.significand * 2 ^ x.exponent.toNat * 10 ^ 330 / 2 ^ (-x.exponent).toNat
  ((Nat.toDigits 10 scaled).length : Int) - 331

/-- Moves trailing zeros of the significand into the exponent, at most `fuel` of
them. -/
def Decadic.trim : Nat → Decadic → Decadic
  | 0, d => d
  | fuel + 1, d =>
    if d.significand ≠ 0 ∧ d.significand % 10 = 0 then
      Decadic.trim fuel ⟨d.significand / 10, d.exponent + 1⟩
    else
      d

/-- The shortest decimal that reads back as a positive magnitude, nearest to it
among those of its length.  Seventeen digits always suffice. -/
def Dyadic.shortest (tie : Tie) (x : Dyadic) : Decadic :=
  let places := (List.range 17).map fun (n : Nat) => x.decade - (n : Int)
  ((places.findSome? (x.onGrid? tie)).getD ⟨x.significand, x.exponent⟩).trim 17

end SampledKmeans.Decimal
