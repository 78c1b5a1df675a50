import SearchSql.Decimal.Double

/-!
# Shortest decimal text of a double

The reals that round to a given double form an interval, whose ends belong to it when the mantissa
is even. `Double.shortest` looks for a decimal with as few digits as possible in that interval: on
the grid of decimals with 1, 2, … 17 digits it tests the two neighbours of the value, takes the
first grid with a hit, and of two hits the nearer one. If both are equally near, the `Tie` decides.
A hit exists on the grid of 17 digits, and if any point of a grid lies in the interval then so does
one of the value's two neighbours.
-/

namespace SearchSql

/-- The positive number `digits * 10 ^ exponent`. -/
structure Decimal where
  digits : Nat
  exponent : Int
deriving DecidableEq

namespace Decimal

/-- The digits in base ten, most significant first. -/
def digitChars (d : Decimal) : List Char := Nat.toDigits 10 d.digits

/-- The number of places before the decimal point; not positive when zeros follow the point. -/
def pointPosition (d : Decimal) : Int := d.digitChars.length + d.exponent

/-- Moves zeros at the end of the digits into the exponent. -/
def stripZeros (d : Decimal) : Decimal :=
  if d.digits = 0 then d
  else if d.digits % 10 = 0 then stripZeros ⟨d.digits / 10, d.exponent + 1⟩
  else d
termination_by d.digits
decreasing_by omega

end Decimal

/-- Which of two neighbours on a grid is taken when a value lies in the middle between them. -/
inductive Tie
  | up
  | even
deriving DecidableEq

/-- Whether a tie goes to the neighbour above, given the digits of the one below. -/
def Tie.takesAbove : Tie → Nat → Bool
  | .up, _ => true
  | .even, below => below % 2 == 1

namespace Double

/--
The interval of reals that round to a double, as whole multiples of `2 ^ (exponent - 2)`. Below a
power of two the neighbouring double is half as far away.
-/
structure RoundingInterval where
  low : Nat
  value : Nat
  high : Nat
  closed : Bool

def roundingInterval (d : Double) : RoundingInterval where
  low := if d.mantissa = leastMantissa ∧ leastExponent < d.exponent then 4 * d.mantissa - 1
    else 4 * d.mantissa - 2
  value := 4 * d.mantissa
  high := 4 * d.mantissa + 2
  closed := d.mantissa % 2 == 0

def powerOfTenFactor (power : Int) : Nat := Nat.pow 10 power.toNat

/-- The exponent of the first digit of a positive ratio in decimal notation. -/
def leadingExponent (numerator denominator : Nat) : Int :=
  if denominator ≤ numerator then ((Nat.toDigits 10 (numerator / denominator)).length : Int) - 1
  else
    let places := (Nat.toDigits 10 (denominator / numerator)).length
    if denominator ≤ numerator * Nat.pow 10 (places - 1) then 1 - (places : Int)
    else -(places : Int)

/-- The point of the grid of step `10 ^ step` nearest to the value that rounds to the double. -/
def onGrid (d : Double) (tie : Tie) (step : Int) : Option Decimal :=
  let interval := d.roundingInterval
  let scale := powerOfTwo (d.exponent - 2) * powerOfTenFactor (-step)
  let unit := powerOfTwo (2 - d.exponent) * powerOfTenFactor step
  let value := interval.value * scale
  let below := value / unit
  let reaches (outer inner : Nat) : Bool :=
    if interval.closed then outer ≤ inner else outer < inner
  let belowHits := reaches (interval.low * scale) (below * unit)
  let aboveHits := reaches ((below + 1) * unit) (interval.high * scale)
  let rise := (below + 1) * unit - value
  let fall := value - below * unit
  let aboveNearer := rise < fall || (rise == fall && tie.takesAbove below)
  if aboveHits && (aboveNearer || !belowHits) then some ⟨below + 1, step⟩
  else if belowHits then some ⟨below, step⟩
  else none

/-- The decimal with the fewest digits that reads back as the magnitude of a double. -/
def shortest (d : Double) (tie : Tie) : Decimal :=
  if d.isZero then ⟨0, 0⟩
  else
    let leading := leadingExponent (d.mantissa * powerOfTwo d.exponent) (powerOfTwo (-d.exponent))
    let found := (List.range 17).findSome? fun (digits : Nat) => d.onGrid tie (leading - digits)
    (found.getD ⟨d.truncate, 0⟩).stripZeros

end Double

end SearchSql
