import SearchSql.Table

/-!
# Field mappings

The data type of each field of an index, by dotted path. A path that is put again takes its last
type.
-/

namespace SearchSql

inductive FieldType
  | text
  | keyword
  | long
  | integer
  | short
  | byte
  | double
  | float
  | halfFloat
  | scaledFloat
  | date
  | boolean
  | object
  | nested
  | geoPoint
  | geoShape
  | ip
  | other (name : String)
deriving DecidableEq

def FieldType.ofName : String → FieldType
  | "text" => .text
  | "keyword" => .keyword
  | "long" => .long
  | "integer" => .integer
  | "short" => .short
  | "byte" => .byte
  | "double" => .double
  | "float" => .float
  | "half_float" => .halfFloat
  | "scaled_float" => .scaledFloat
  | "date" => .date
  | "boolean" => .boolean
  | "object" => .object
  | "nested" => .nested
  | "geo_point" => .geoPoint
  | "geo_shape" => .geoShape
  | "ip" => .ip
  | name => .other name

/-- The types of fields, by path. -/
abbrev Mapping := Table FieldType

namespace Mapping

def fieldType? (mapping : Mapping) (field : String) : Option FieldType := mapping.get? field

def isText (mapping : Mapping) (field : String) : Bool :=
  mapping.fieldType? field == some .text

end Mapping

end SearchSql
