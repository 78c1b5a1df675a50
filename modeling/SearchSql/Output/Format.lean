import SearchSql.Query.Prepare
import SearchSql.Text.Search

/-!
# Output formats

A result is written as JSON, as GeoJSON or as CSV. In GeoJSON a row is a feature whose properties
are its columns, apart from the column of shapes, which becomes its geometry. A geometry that is
text is read as JSON; text that is no JSON is no geometry.
-/

namespace SearchSql

inductive OutputFormat
  | json
  | geoJson
  | csv
deriving DecidableEq

namespace OutputFormat

/-- The format of a name, in any mixture of ASCII upper and lower case. -/
def ofName? (name : String) : Option OutputFormat :=
  match Text.asciiLower name with
  | "json" => some .json
  | "geojson" => some .geoJson
  | "csv" => some .csv
  | _ => none

def unknownMessage (name : String) : String :=
  "unknown output format: " ++ Text.asciiLower name

end OutputFormat

namespace Row

def geometry (row : Record) : Json :=
  match Table.get? row geometryField with
  | some (.string text) => (Json.read text).getD .null
  | some value => value
  | none => .null

def toFeature (row : Record) : Record :=
  [("type", .string "Feature"), ("geometry", geometry row),
    ("properties", .object (Table.erase geometryField row))]

end Row

end SearchSql
