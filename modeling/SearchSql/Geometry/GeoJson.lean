import SearchSql.Geometry.Basic
import SearchSql.Json.Printer

/-!
# Geometries in GeoJSON

Reads the seven geometry types, and a feature or a collection of exactly one feature as the
geometry that it wraps. A position has at least two ordinates, of which the first three count.
-/

namespace SearchSql

inductive GeometryError
  | missingType
  | featureWithoutGeometry
  | missingGeometries
  | missingCoordinates
  | expectedArray (value : Json)
  | badPosition (value : Json)
  | badOrdinate (value : Json)
  | manyFeatures
  | unknownShape (name : String)

namespace GeometryError

/-- Whether the input is a geometry of a kind that is not handled, rather than no geometry. -/
def isUnsupported : GeometryError → Bool
  | .manyFeatures => true
  | .unknownShape _ => true
  | _ => false

def message : GeometryError → String
  | .missingType => "invalid geometry: missing \"type\""
  | .featureWithoutGeometry => "invalid geometry: feature without geometry"
  | .missingGeometries => "invalid geometry: missing \"geometries\""
  | .missingCoordinates => "invalid geometry: missing \"coordinates\""
  | .expectedArray value => "invalid geometry: expected array, got " ++ value.compact
  | .badPosition value => "invalid geometry: bad position " ++ value.compact
  | .badOrdinate value => "invalid geometry: non-numeric ordinate " ++ value.compact
  | .manyFeatures => "unsupported geometry type: FeatureCollection with more than one feature"
  | .unknownShape name => "unsupported geometry type: " ++ name

end GeometryError

namespace Coordinates

def readOrdinate (value : Json) : Except GeometryError Double :=
  match value.asDouble? with
  | some ordinate => .ok ordinate
  | none => .error (.badOrdinate value)

def readPosition (value : Json) : Except GeometryError Coordinates :=
  match value.asArray? with
  | some ordinates =>
    if 2 ≤ ordinates.length then ((ordinates.take 3).mapM readOrdinate).map .position
    else .error (.badPosition value)
  | none => .error (.badPosition value)

/-- Coordinates with a number of levels of lists above their positions. -/
def read : Nat → Json → Except GeometryError Coordinates
  | 0, value => readPosition value
  | depth + 1, value =>
    match value.asArray? with
    | some items => (items.mapM (read depth)).map .list
    | none => .error (.expectedArray value)

end Coordinates

namespace Geometry

/-- A geometry of the named shape; an empty array at the top is an empty geometry. -/
def readShaped (name : String) (value : Json) : Except GeometryError Geometry :=
  match value.member? "coordinates" with
  | none => .error .missingCoordinates
  | some coordinates =>
    match Shape.ofName? name with
    | none => .error (.unknownShape name)
    | some shape =>
      if (coordinates.asArray?.map List.isEmpty).getD false then .ok (.empty shape)
      else (Coordinates.read shape.depth coordinates).map (.shaped shape)

def ofGeoJson (value : Json) : Except GeometryError Geometry :=
  match (value.member? "type").bind Json.asText? with
  | none => .error .missingType
  | some "Feature" =>
    match found : value.member? "geometry" with
    | none => .error .featureWithoutGeometry
    | some geometry =>
      if geometry.isNull then .error .featureWithoutGeometry
      else
        have := Json.sizeOf_member?_lt found
        ofGeoJson geometry
  | some "FeatureCollection" =>
    match found : value.member? "features" with
    | none => .error .manyFeatures
    | some features =>
      match foundItems : features.asArray? with
      | some [feature] =>
        have := Json.sizeOf_member?_lt found
        have := Json.sizeOf_asArray?_lt foundItems
        ofGeoJson feature
      | _ => .error .manyFeatures
  | some "GeometryCollection" =>
    match found : value.member? "geometries" with
    | none => .error .missingGeometries
    | some geometries =>
      match foundItems : geometries.asArray? with
      | none => .error .missingGeometries
      | some items =>
        have := Json.sizeOf_member?_lt found
        have := Json.sizeOf_asArray?_lt foundItems
        (items.attach.mapM fun item => ofGeoJson item.val).map .collection
  | some name => readShaped name value
termination_by sizeOf value
decreasing_by
  · omega
  · simp only [List.cons.sizeOf_spec] at *
    omega
  · have := List.sizeOf_lt_of_mem item.property
    omega

end Geometry

end SearchSql
