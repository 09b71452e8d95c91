import SampledKmeans.Decimal.Shortest

/-!
# Written numbers

A layout says how the shortest digits of a number are set out as text: when the
decimal point is written in its place and when an exponent is used, whether an
integral value keeps a decimal, and what stands for the numbers that have no
digits.  The library has two layouts, `Layout.message` for texts that people
read and `Layout.json` for table rows and settings.
-/

namespace SampledKmeans.Decimal

/-- How a floating-point number is set out as text. -/
structure Layout where
  /-- The choice between two equally near digit strings. -/
  tie : Tie
  /-- Whether a number of this decade is written without an exponent. -/
  positional : Int → Bool
  /-- Whether an integral value written without an exponent ends in `.0`. -/
  keepPoint : Bool
  /-- The text of a value that is not a number. -/
  notANumber : String
  /-- The text of positive infinity. -/
  infinity : String
  /-- The text of negative infinity. -/
  negativeInfinity : String

/-- The decimal digits of a natural number. -/
def digitsOf (n : Nat) : List Char :=
  Nat.toDigits 10 n

/-- The digits with the decimal point in its place. -/
def positionalText (keepPoint : Bool) (digits : List Char) (exponent : Int) : List Char :=
  if 0 ≤ exponent then
    digits ++ List.replicate exponent.toNat '0' ++ (if keepPoint then ['.', '0'] else [])
  else
    let places := (-exponent).toNat
    if places < digits.length then
      digits.take (digits.length - places) ++ '.' :: digits.drop (digits.length - places)
    else
      '0' :: '.' :: List.replicate (places - digits.length) '0' ++ digits

/-- The digits with one of them before the decimal point, and a signed
exponent. -/
def scientificText (digits : List Char) (decade : Int) : List Char :=
  let lead := match digits with
    | first :: second :: rest => first :: '.' :: second :: rest
    | short => short
  let sign := if decade < 0 then '-' else '+'
  lead ++ 'e' :: sign :: digitsOf decade.natAbs

/-- The text of a finite magnitude. -/
def Layout.magnitude (layout : Layout) (x : Dyadic) : List Char :=
  if x.significand = 0 then
    positionalText layout.keepPoint ['0'] 0
  else
    let d := x.shortest layout.tie
    let digits := digitsOf d.significand
    let decade := d.exponent + (digits.length : Int) - 1
    if layout.positional decade then
      positionalText layout.keepPoint digits d.exponent
    else
      scientificText digits decade

/-- Whether the sign bit of a number is set. -/
def isNegative (x : Float) : Bool :=
  2 ^ 63 ≤ x.toBits.toNat

/-- The text of a number under a layout. -/
def Layout.write (layout : Layout) (x : Float) : List Char :=
  if x.isNaN then
    layout.notANumber.toList
  else if x.isInf then
    (if isNegative x then layout.negativeInfinity else layout.infinity).toList
  else
    (if isNegative x then ['-'] else []) ++ layout.magnitude (Dyadic.ofFloat x)

/-- Numbers in messages never carry an exponent, and an integral value has no
point. -/
def Layout.message : Layout where
  tie := .up
  positional _ := true
  keepPoint := false
  notANumber := "NaN"
  infinity := "inf"
  negativeInfinity := "-inf"

/-- Numbers in JSON keep at least one decimal, use an exponent from `1e+16` up
and below `0.00001`, and are `null` when they are not finite. -/
def Layout.json : Layout where
  tie := .even
  positional decade := -5 ≤ decade && decade ≤ 15
  keepPoint := true
  notANumber := "null"
  infinity := "null"
  negativeInfinity := "null"

/-- A number as it stands in a message. -/
def inMessage (x : Float) : String :=
  String.ofList (Layout.message.write x)

end SampledKmeans.Decimal
