/-!
# Double-precision numbers

A finite double is a whole mantissa of at most 53 bits times a power of two. The arithmetic that
reading a decimal literal needs (the double nearest to a ratio, products and quotients) is exact
arithmetic on natural numbers followed by one rounding, so every result is a value that can be
computed with in proofs.
-/

namespace SearchSql

/-- The number `mantissa * 2 ^ exponent`, negated when `negative`. -/
structure Double where
  negative : Bool
  mantissa : Nat
  exponent : Int
deriving DecidableEq

namespace Double

/-- The exponent of the smallest positive double, below which no result is scaled. -/
def leastExponent : Int := -1074

/-- The exponent of the doubles next to overflow. -/
def greatestExponent : Int := 971

def zero : Double := ⟨false, 0, leastExponent⟩

def neg (d : Double) : Double := { d with negative := !d.negative }

def isZero (d : Double) : Bool := d.mantissa == 0

/-- The whole number nearest to a ratio; a half goes to the even neighbour. -/
def roundRatio (numerator denominator : Nat) : Nat :=
  let quotient := numerator / denominator
  let remainder := numerator % denominator
  if 2 * remainder < denominator then quotient
  else if denominator < 2 * remainder then quotient + 1
  else quotient + quotient % 2

/-- The factor `2 ^ power`, or 1 for a negative power. -/
def powerOfTwo (power : Int) : Nat := Nat.pow 2 power.toNat

/-- The least mantissa of 53 bits: `2 ^ 52`. -/
def leastMantissa : Nat := 4503599627370496

/-- The least mantissa that is too long: `2 ^ 53`. -/
def mantissaBound : Nat := 9007199254740992

/--
The exponent at which the mantissa of a positive ratio has 53 bits. The first guess leaves a
mantissa between `2 ^ 52` and `2 ^ 54`, so at most one more halving is due.
-/
def mantissaExponent (numerator denominator : Nat) : Int :=
  let guess : Int := (numerator.log2 : Int) - (denominator.log2 : Int) - 53
  let mantissa := numerator * powerOfTwo (-guess) / (denominator * powerOfTwo guess)
  max (if mantissa < mantissaBound then guess else guess + 1) leastExponent

/-- The double nearest to a ratio, a half going to the even mantissa; `none` if it is too large. -/
def nearest (numerator denominator : Nat) : Option Double :=
  if numerator = 0 then some zero
  else
    let exponent := mantissaExponent numerator denominator
    let mantissa :=
      roundRatio (numerator * powerOfTwo (-exponent)) (denominator * powerOfTwo exponent)
    let carried := mantissa == mantissaBound
    let exponent := if carried then exponent + 1 else exponent
    if exponent ≤ greatestExponent then
      some ⟨false, if carried then leastMantissa else mantissa, exponent⟩
    else none

/-- The product of two magnitudes, rounded; `none` when it is too large. -/
def mul (a b : Double) : Option Double :=
  let exponent := a.exponent + b.exponent
  nearest (a.mantissa * b.mantissa * powerOfTwo exponent) (powerOfTwo (-exponent))

/-- The quotient of two magnitudes, rounded; `none` when it is too large. -/
def div (a b : Double) : Option Double :=
  let exponent := a.exponent - b.exponent
  nearest (a.mantissa * powerOfTwo exponent) (b.mantissa * powerOfTwo (-exponent))

def ofInt (z : Int) : Double :=
  let magnitude := (nearest z.natAbs 1).getD zero
  if z < 0 then magnitude.neg else magnitude

/-- The whole part of the magnitude. -/
def truncate (d : Double) : Nat :=
  d.mantissa * powerOfTwo d.exponent / powerOfTwo (-d.exponent)

/-- Whether the value has no fractional part. -/
def isWhole (d : Double) : Bool :=
  d.mantissa % powerOfTwo (-d.exponent) == 0

end Double

end SearchSql
