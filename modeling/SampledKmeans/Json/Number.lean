import SampledKmeans.Decimal.Layout
import SampledKmeans.Json.Token

/-!
# Numbers in JSON

Whole numbers are read exactly and must fit the type they are read into.
Floating-point numbers are read from a significand of at most 64 bits and a
power of ten: digits that do not fit are left out, the significand is rounded
to a floating-point number, and this is multiplied or divided by the power.  A
number too large for the format is refused, and one too small is zero.
-/

namespace SampledKmeans.Json

/-! ## Whole numbers -/

/-- The text of a whole number. -/
def ofInt (n : Int) : Json :=
  .number ((if n < 0 then ['-'] else []) ++ Decimal.digitsOf n.natAbs)

/-- The text of a natural number. -/
def ofNat (n : Nat) : Json :=
  .number (Decimal.digitsOf n)

/-- The whole number that a numeral stands for; `none` when it has a fraction
or an exponent, or is zero with a sign. -/
def Numeral.int? (numeral : Numeral) : Option Int :=
  if !numeral.fraction.isEmpty || numeral.exponent.isSome then
    none
  else
    let magnitude := digitsValue numeral.whole
    if numeral.negative then
      if magnitude = 0 then none else some (-(magnitude : Int))
    else
      some magnitude

/-- Reads a whole number between two bounds. -/
def int? (low high : Int) : Json → Option Int
  | .number text => do
    let n ← (← Numeral.ofText? text).int?
    if low ≤ n ∧ n ≤ high then some n else none
  | _ => none

/-- Reads a natural number up to a bound. -/
def nat? (high : Nat) (value : Json) : Option Nat :=
  (int? 0 high value).map Int.toNat

/-! ## Floating-point numbers -/

/-- A floating-point number.  One that is not finite has no text and is
`null`. -/
def ofFloat (x : Float) : Json :=
  if x.isFinite then .number (Decimal.Layout.json.write x) else .null

/-- A significand that takes up digits while it fits into 64 bits. -/
structure Significand where
  value : Nat := 0
  /-- The power of ten that the value is to be multiplied by. -/
  exponent : Int := 0
  /-- Whether a digit has been left out. -/
  full : Bool := false
  deriving DecidableEq, Repr

namespace Significand

/-- Takes up a digit, or leaves it out if it does not fit.  `gain` is what the
exponent gains by a digit that is taken up, and `loss` by one that is not. -/
def absorb (gain loss : Int) (s : Significand) (c : Char) : Significand :=
  let value := 10 * s.value + (c.toNat - '0'.toNat)
  if s.full || 2 ^ 64 ≤ value then { s with exponent := s.exponent + loss, full := true }
  else { s with value, exponent := s.exponent + gain }

/-- The significand of a numeral.  A digit left out before the point counts as
a power of ten, and one after it not at all. -/
def ofNumeral (numeral : Numeral) : Significand :=
  let whole := numeral.whole.foldl (absorb 0 1) {}
  let all := numeral.fraction.foldl (absorb (-1) 0) { whole with full := false }
  { all with exponent := all.exponent + numeral.exponent.getD 0 }

end Significand

/-- A power of ten, for exponents up to 308. -/
def powerOfTen (exponent : Nat) : Float :=
  Float.ofScientific 1 false exponent

/-- Divides a number by a power of ten in steps that the format can hold.  The
number of steps is bounded, because three of them leave nothing. -/
def divideByPower : (steps : Nat) → Float → Nat → Float
  | 0, _, _ => 0.0
  | steps + 1, x, exponent =>
    if exponent ≤ 308 then x / powerOfTen exponent
    else divideByPower steps (x / powerOfTen 308) (exponent - 308)

/-- Multiplies a number by a power of ten; `none` when the result is too
large. -/
def scale? (x : Float) (exponent : Int) : Option Float :=
  if exponent < 0 then
    some (divideByPower 5 x exponent.natAbs)
  else if exponent ≤ 308 then
    let product := x * powerOfTen exponent.toNat
    if product.isInf then none else some product
  else if x == 0.0 then
    some x
  else
    none

/-- The floating-point number that a numeral stands for; `none` when it is too
large. -/
def Numeral.float? (numeral : Numeral) : Option Float :=
  let s := Significand.ofNumeral numeral
  (scale? (Float.ofNat s.value) s.exponent).map fun x => if numeral.negative then -x else x

/-- Reads a floating-point number. -/
def float? : Json → Option Float
  | .number text => (Numeral.ofText? text).bind Numeral.float?
  | _ => none

end SampledKmeans.Json
