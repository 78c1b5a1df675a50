import SearchSql.Json.Basic
import SearchSql.Row.ColumnName

/-!
# Rows from aggregations

A grouping comes back as a tree of buckets, one level for each term of the grouping. Every path
from the root to an innermost bucket is one row: the keys of the buckets on the way, then the
metrics of the innermost bucket.
-/

namespace SearchSql.Bucket

/-- The members of a bucket that describe the bucket itself. -/
def isDescription (name : String) : Bool :=
  name == "key" || name == "key_as_string" || name == "doc_count"

def bucketsOf? (value : Json) : Option (List Json) :=
  (value.member? "buckets").bind Json.asArray?

/-- The first member with buckets, among those that do not describe their object. -/
def innerLevel? : Record → Option (String × List Json)
  | [] => none
  | (name, value) :: rest =>
    if isDescription name then innerLevel? rest
    else
      match bucketsOf? value with
      | some buckets => some (name, buckets)
      | none => innerLevel? rest

/--
The name and the buckets of the level that a member holds. Under a marker of nested documents the
level is one step further down.
-/
def level? (name : String) (value : Json) : Option (String × List Json) :=
  match bucketsOf? value with
  | some buckets => some (name, buckets)
  | none =>
    if Text.occursIn nestedMarker.toList name.toList then
      value.asRecord?.bind innerLevel?
    else none

def metric? (value : Json) : Option Json :=
  value.asRecord?.bind fun members =>
    (Table.get? members "value").or (Table.get? members "values")

/-- The key of a bucket, as text if the engine gives it as text too. -/
def key (bucket : Record) : Json :=
  ((Table.get? bucket "key_as_string").or (Table.get? bucket "key")).getD .null

/-- Puts the metrics among some members into a row. -/
def putMetrics (row : Record) (members : List (String × Json)) : Record :=
  row.putAll <| members.filterMap fun member =>
    (metric? member.2).map fun value => (columnName member.1, value)

/-- The members of a bucket that hold metrics or a further level. -/
def contents (bucket : Record) : List (String × Json) :=
  bucket.filter fun member => !isDescription member.1

/-- The level below a bucket, which is there when it is the only thing in the bucket. -/
def only? : List (String × Json) → Option (String × List Json)
  | [(name, value)] => level? name value
  | _ => none

theorem sizeOf_bucketsOf?_lt {value : Json} {buckets : List Json}
    (found : bucketsOf? value = some buckets) : sizeOf buckets < sizeOf value := by
  rcases Option.bind_eq_some_iff.1 found with ⟨inner, isMember, isArray⟩
  have := Json.sizeOf_member?_lt isMember
  have := Json.sizeOf_asArray?_lt isArray
  omega

theorem sizeOf_innerLevel?_lt {members : Record} {level : String × List Json}
    (found : innerLevel? members = some level) : sizeOf level.2 < sizeOf members := by
  induction members with
  | nil => simp [innerLevel?] at found
  | cons member rest ih =>
    rcases member with ⟨name, value⟩
    have further : innerLevel? rest = some level →
        sizeOf level.2 < sizeOf ((name, value) :: rest) := by
      intro later
      have := ih later
      simp only [List.cons.sizeOf_spec]
      omega
    rw [innerLevel?] at found
    split at found
    · exact further found
    · split at found
      next buckets isBuckets =>
        cases found
        have := sizeOf_bucketsOf?_lt isBuckets
        simp only [List.cons.sizeOf_spec, Prod.mk.sizeOf_spec]
        omega
      · exact further found

theorem sizeOf_level?_lt {name : String} {value : Json} {level : String × List Json}
    (found : level? name value = some level) : sizeOf level.2 < sizeOf value := by
  unfold level? at found
  split at found
  next buckets isBuckets =>
    cases found
    exact sizeOf_bucketsOf?_lt isBuckets
  · split at found
    · cases value with
      | object members =>
        have looked : innerLevel? members = some level := found
        have smaller := sizeOf_innerLevel?_lt looked
        simp only [Json.object.sizeOf_spec]
        omega
      | _ => simp [Json.asRecord?] at found
    · cases found

theorem sizeOf_only?_lt {members : List (String × Json)} {level : String × List Json}
    (found : only? members = some level) : sizeOf level.2 < sizeOf members := by
  unfold only? at found
  split at found
  next name value =>
    have := sizeOf_level?_lt found
    simp only [List.cons.sizeOf_spec, Prod.mk.sizeOf_spec]
    omega
  · cases found

theorem sizeOf_filter_le {α : Type} [SizeOf α] (keep : α → Bool) (items : List α) :
    sizeOf (items.filter keep) ≤ sizeOf items := by
  induction items with
  | nil => simp
  | cons item rest ih =>
    simp only [List.filter_cons]
    split <;> simp only [List.cons.sizeOf_spec] <;> omega

theorem sizeOf_contents_le (bucket : Record) : sizeOf (contents bucket) ≤ sizeOf bucket :=
  sizeOf_filter_le _ _

/-- The rows of one level of buckets, whose key goes into the column of the given name. -/
def rows (column : String) : List Json → List Record
  | [] => []
  | .object bucket :: rest =>
    let start : Record := [(column, key bucket)]
    let here :=
      match found : only? (contents bucket) with
      | some level =>
        have : sizeOf level.2 < 1 + (1 + sizeOf bucket) + sizeOf rest := by
          have := sizeOf_only?_lt found
          have := sizeOf_contents_le bucket
          omega
        (rows (columnName level.1) level.2).map start.putAll
      | none => [putMetrics start (contents bucket)]
    here ++ rows column rest
  | _ :: rest => rows column rest
termination_by buckets => sizeOf buckets

/-- The first level of buckets among the aggregations of a result. -/
def outermostLevel? (aggregations : Record) : Option (String × List Json) :=
  aggregations.findSome? fun member => level? member.1 member.2

/-- The rows of a result: those of its buckets, or one row of metrics when nothing is grouped. -/
def rowsOf (aggregations : Record) : List Record :=
  match outermostLevel? aggregations with
  | some level => rows (columnName level.1) level.2
  | none =>
    let row := putMetrics [] aggregations
    if row.isEmpty then [] else [row]

end SearchSql.Bucket
