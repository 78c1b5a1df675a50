import SearchSql.Decimal.Layout

/-!
# Geometries and their Well-Known Text

A geometry is a shape with coordinates, or a collection of geometries. Its text is a tag followed
by `EMPTY` or by a bracketed list: a position is written as its ordinates separated by blanks, a
list of positions between brackets, and so on for each level that the shape has.
-/

namespace SearchSql

inductive Shape
  | point
  | lineString
  | multiPoint
  | polygon
  | multiLineString
  | multiPolygon
deriving DecidableEq

namespace Shape

def tag : Shape → String
  | .point => "POINT"
  | .lineString => "LINESTRING"
  | .multiPoint => "MULTIPOINT"
  | .polygon => "POLYGON"
  | .multiLineString => "MULTILINESTRING"
  | .multiPolygon => "MULTIPOLYGON"

/-- How many levels of lists stand above a position. -/
def depth : Shape → Nat
  | .point => 0
  | .lineString => 1
  | .multiPoint => 1
  | .polygon => 2
  | .multiLineString => 2
  | .multiPolygon => 3

def ofName? : String → Option Shape
  | "Point" => some .point
  | "LineString" => some .lineString
  | "MultiPoint" => some .multiPoint
  | "Polygon" => some .polygon
  | "MultiLineString" => some .multiLineString
  | "MultiPolygon" => some .multiPolygon
  | _ => none

end Shape

inductive Coordinates
  | position (ordinates : List Double)
  | list (items : List Coordinates)

inductive Geometry
  | empty (shape : Shape)
  | shaped (shape : Shape) (coordinates : Coordinates)
  | collection (parts : List Geometry)

/-- Whole numbers below this bound are written without a point. -/
def wholeOrdinateBound : Nat := 1000000000000000

/-- An ordinate in positional notation, whatever its magnitude; zero has no sign. -/
def ordinateText (value : Double) : String :=
  if value.isWhole ∧ value.truncate < wholeOrdinateBound then
    (if value.negative ∧ value.truncate ≠ 0 then "-" else "") ++ Nat.repr value.truncate
  else value.plainText

def bracketedList (items : List String) : String := "(" ++ ", ".intercalate items ++ ")"

mutual

def Coordinates.text : Coordinates → String
  | .position ordinates => " ".intercalate (ordinates.map ordinateText)
  | .list items => bracketedList (Coordinates.texts items)

def Coordinates.texts : List Coordinates → List String
  | [] => []
  | item :: rest => item.text :: Coordinates.texts rest

end

/-- The coordinates behind a tag; a position that stands alone gets brackets too. -/
def Coordinates.bracketedText : Coordinates → String
  | .position ordinates => bracketedList [(Coordinates.position ordinates).text]
  | .list items => (Coordinates.list items).text

mutual

def Geometry.toWkt : Geometry → String
  | .empty shape => shape.tag ++ " EMPTY"
  | .shaped shape coordinates => shape.tag ++ " " ++ coordinates.bracketedText
  | .collection [] => "GEOMETRYCOLLECTION EMPTY"
  | .collection (part :: parts) =>
    "GEOMETRYCOLLECTION " ++ bracketedList (part.toWkt :: Geometry.allToWkt parts)

def Geometry.allToWkt : List Geometry → List String
  | [] => []
  | part :: parts => part.toWkt :: Geometry.allToWkt parts

end

end SearchSql
