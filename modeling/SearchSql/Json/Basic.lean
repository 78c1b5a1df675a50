import SearchSql.Decimal.Double
import SearchSql.Table

/-!
# JSON documents

A document is a tree of values. The members of an object keep the order in which their names were
first put there, because that is the order in which columns come out. A number is an integer of at
most 64 bits or a double, and the two are never confused: `1` and `1.0` are different documents.
-/

namespace SearchSql

inductive Number
  | integer (value : Int)
  | double (value : Double)
deriving DecidableEq

inductive Json
  | null
  | bool (value : Bool)
  | number (value : Number)
  | string (text : String)
  | array (items : List Json)
  | object (members : List (String × Json))
deriving Inhabited

/-- The members of an object, in order. A row of a result is one too. -/
abbrev Record := Table Json

namespace Number

/-- The number as a whole number that is not negative; `none` for a double, whatever its value. -/
def natural? : Number → Option Nat
  | .integer (.ofNat n) => some n
  | _ => none

def toDouble : Number → Double
  | .integer z => Double.ofInt z
  | .double d => d

end Number

namespace Json

def asRecord? : Json → Option Record
  | .object members => some members
  | _ => none

def asArray? : Json → Option (List Json)
  | .array items => some items
  | _ => none

def asText? : Json → Option String
  | .string value => some value
  | _ => none

def asNatural? : Json → Option Nat
  | .number value => value.natural?
  | _ => none

def asDouble? : Json → Option Double
  | .number value => some value.toDouble
  | _ => none

/-- The member of an object; `none` for a value that is no object. -/
def member? (value : Json) (name : String) : Option Json :=
  value.asRecord?.bind (Table.get? · name)

/-- The element of an array; `none` for a value that is no array. -/
def element? (value : Json) (index : Nat) : Option Json :=
  value.asArray?.bind fun items => items[index]?

def isNull : Json → Bool
  | .null => true
  | _ => false

theorem asRecord?_eq_some_iff {value : Json} {members : Record} :
    value.asRecord? = some members ↔ value = .object members := by
  cases value <;> simp [asRecord?]

theorem bind_asRecord?_eq_some_iff {value? : Option Json} {members : Record} :
    value?.bind asRecord? = some members ↔ value? = some (.object members) := by
  simp [Option.bind_eq_some_iff, asRecord?_eq_some_iff]

theorem bind_asRecord?_eq_none_iff {value? : Option Json} :
    value?.bind asRecord? = none ↔ ∀ members, value? ≠ some (.object members) := by
  simp only [Option.eq_none_iff_forall_ne_some, ne_eq, bind_asRecord?_eq_some_iff]

theorem asArray?_eq_some_iff {value : Json} {items : List Json} :
    value.asArray? = some items ↔ value = .array items := by
  cases value <;> simp [asArray?]

theorem asText?_eq_some_iff {value : Json} {text : String} :
    value.asText? = some text ↔ value = .string text := by
  cases value <;> simp [asText?]

end Json

theorem Table.sizeOf_get?_lt {record : Record} {name : String} {value : Json}
    (found : Table.get? record name = some value) : sizeOf value < sizeOf record := by
  induction record with
  | nil => simp at found
  | cons member rest ih =>
    rw [Table.get?_cons] at found
    split at found
    · cases found
      rcases member with ⟨name', value'⟩
      simp only [List.cons.sizeOf_spec, Prod.mk.sizeOf_spec]
      omega
    · have smaller := ih found
      simp only [List.cons.sizeOf_spec]
      omega

theorem Json.sizeOf_member?_lt {value inner : Json} {name : String}
    (found : value.member? name = some inner) : sizeOf inner < sizeOf value := by
  cases value with
  | object members =>
    have looked : Table.get? members name = some inner := found
    have smaller := Table.sizeOf_get?_lt looked
    simp only [Json.object.sizeOf_spec]
    omega
  | _ => simp [Json.member?, Json.asRecord?] at found

theorem Json.sizeOf_asArray?_lt {value : Json} {items : List Json}
    (found : value.asArray? = some items) : sizeOf items < sizeOf value := by
  cases value with
  | array elements =>
    cases found
    simp only [Json.array.sizeOf_spec]
    omega
  | _ => simp [Json.asArray?] at found

end SearchSql
