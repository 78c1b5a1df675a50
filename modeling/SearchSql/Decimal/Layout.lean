import SearchSql.Decimal.Shortest

/-!
# Layouts of a double

The two ways in which a double is written: as a JSON number, which always shows that it is not an
integer and uses an exponent for very large and very small values, and as a plain number without an
exponent.
-/

namespace SearchSql

namespace Decimal

def zeros (count : Nat) : List Char := List.replicate count '0'

/-- Positional notation: the point among the digits, or zeros between the point and the digits. -/
def positional (d : Decimal) : List Char :=
  let digits := d.digitChars
  let point := d.pointPosition
  if 0 ≤ d.exponent then digits ++ zeros d.exponent.toNat
  else if 0 < point then digits.take point.toNat ++ '.' :: digits.drop point.toNat
  else '0' :: '.' :: zeros (-point).toNat ++ digits

/-- One digit before the point, and a signed exponent without padding. -/
def scientific (d : Decimal) : List Char :=
  let exponent := d.pointPosition - 1
  let power := (if exponent < 0 then '-' else '+') :: Nat.toDigits 10 exponent.natAbs
  match d.digitChars with
  | [] => []
  | first :: [] => first :: 'e' :: power
  | first :: rest => first :: '.' :: rest ++ 'e' :: power

end Decimal

namespace Double

def signed (d : Double) (magnitude : List Char) : String :=
  String.ofList (if d.negative then '-' :: magnitude else magnitude)

/--
Positional for magnitudes from `1e-5` up to `1e16`, with at least one place after the point. A tie
between two shortest decimals goes to the even digit.
-/
def jsonText (d : Double) : String :=
  let decimal := d.shortest .even
  d.signed <|
    if d.isZero then ['0', '.', '0']
    else if decimal.pointPosition ≤ -5 ∨ 16 < decimal.pointPosition then decimal.scientific
    else if 0 ≤ decimal.exponent then decimal.positional ++ ['.', '0']
    else decimal.positional

/--
Positional whatever the magnitude; a whole number has no point. A tie between two shortest decimals
goes up.
-/
def plainText (d : Double) : String :=
  d.signed (d.shortest .up).positional

end Double

end SearchSql
