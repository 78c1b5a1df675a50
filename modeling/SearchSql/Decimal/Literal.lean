import SearchSql.Decimal.Double

/-!
# The values of literals

A text of decimal digits, with or without a plus sign in front, is a whole number, which is read if
64 bits hold it.

A decimal literal is read as a significand that fits 64 bits and a power of ten. The significand is
rounded to a double first and then multiplied or divided by the power of ten, itself a rounded
double, in one step or, below `10 ^ -308`, in several. Each step rounds, so the result can be one
unit away from the double nearest to the literal: `999999999999999.5` is read as
`999999999999999.6`.
-/

namespace SearchSql

namespace Decimal

def digitsNumber (digits : List Char) : Nat :=
  digits.foldl (fun total c => total * 10 + (c.toNat - '0'.toNat)) 0

/-- The number that decimal digits write. -/
def natural? (digits : List Char) : Option Nat :=
  if digits.isEmpty || !digits.all Char.isDigit then none else some (digitsNumber digits)

/-- The least number that 64 bits do not hold: 2 ^ 64. -/
def wordBound : Nat := 18446744073709551616

/-- The number below the bound of a word that a text writes. -/
def word64? (text : String) : Option Nat :=
  let digits := match text.toList with
    | '+' :: digits => digits
    | digits => digits
  (natural? digits).filter (· < wordBound)

end Decimal

namespace Double

/-- The greatest power of ten that a double reaches. -/
def greatestPowerOfTen : Nat := 308

def powerOfTen (power : Nat) : Double := (nearest (Nat.pow 10 power) 1).getD zero

def scaleUp (value : Double) (power : Nat) : Option Double :=
  if power ≤ greatestPowerOfTen then value.mul (powerOfTen power)
  else if value.isZero then some value
  else none

/-- Divides by a power of ten, `10 ^ 308` at a time while the power is greater than that. -/
def scaleDown (value : Double) (power : Nat) : Option Double :=
  if power ≤ greatestPowerOfTen then value.div (powerOfTen power)
  else if value.isZero then some value
  else (value.div (powerOfTen greatestPowerOfTen)).bind
    (scaleDown · (power - greatestPowerOfTen))
termination_by power
decreasing_by simp only [greatestPowerOfTen] at *; omega

/-- The value `significand * 10 ^ power`, step by step; `none` when it is too large. -/
def ofSignificand (significand : Nat) (power : Int) : Option Double :=
  (nearest significand 1).bind fun value =>
    if 0 ≤ power then value.scaleUp power.toNat else value.scaleDown (-power).toNat

end Double

end SearchSql
