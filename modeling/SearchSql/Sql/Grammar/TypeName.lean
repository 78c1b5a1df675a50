import SearchSql.Sql.Grammar.Column
import SearchSql.Table

/-!
# Names of types

A type is named by keywords of its own, with a length or parameters where it takes them, or by any
other name. `TypeName.family` keeps the two cases apart in which a name of a type does not lead a
string of that type.
-/

namespace SearchSql.Sql

inductive TypeFamily
  | builtin
  | interval
  | custom
deriving DecidableEq

structure TypeName where
  text : String
  family : TypeFamily := .builtin

/-- Types without parameters, with their normal text. -/
def plainTypes : Table String := [
  ("BOOLEAN", "BOOLEAN"), ("BOOL", "BOOL"), ("REAL", "REAL"), ("FLOAT4", "FLOAT4"),
  ("FLOAT8", "FLOAT8"), ("FLOAT32", "Float32"), ("FLOAT64", "FLOAT64"), ("INT16", "Int16"),
  ("INT32", "Int32"), ("INT64", "INT64"), ("INT128", "Int128"), ("INT256", "Int256"),
  ("UINT8", "UInt8"), ("UINT16", "UInt16"), ("UINT32", "UInt32"), ("UINT64", "UInt64"),
  ("UINT128", "UInt128"), ("UINT256", "UInt256"), ("UUID", "UUID"), ("DATE", "DATE"),
  ("DATE32", "Date32"), ("JSON", "JSON"), ("JSONB", "JSONB"), ("REGCLASS", "REGCLASS"),
  ("TEXT", "TEXT"), ("BYTEA", "BYTEA"), ("TRIGGER", "TRIGGER")]

/-- Types with one number in brackets that may be left out. -/
def sizedTypes : List String :=
  ["FLOAT", "CLOB", "BINARY", "VARBINARY", "BLOB", "BYTES", "DATETIME", "STRING"]

/-- Types of whole numbers, which may be unsigned. -/
def integerTypes : List String := [
  "TINYINT", "INT2", "SMALLINT", "MEDIUMINT", "INT", "INT4", "INT8", "INTEGER", "BIGINT"]

def decimalTypes : List String := ["NUMERIC", "DECIMAL", "DEC", "BIGNUMERIC", "BIGDECIMAL"]

open SearchSql.Sql.Parser

def bracketText (text : String) : String := "(" ++ text ++ ")"

/-- A number in brackets, or nothing. -/
def precision? : Parser (Option String) := do
  if ← nextIsSymbol "(" then some <$> inBrackets wholeNumber else pure none

def precisionText : Parser String := optionText bracketText <$> precision?

/-- A length of text, with its unit. -/
def characterLength : Parser String := do
  if ← keyword? "MAX" then return "MAX"
  let length ← wholeNumber
  match ← oneOf? ["CHARACTERS", "OCTETS"] with
  | some unit => return length ++ " " ++ unit
  | none => return length

def characterLengthText : Parser String := do
  if ← nextIsSymbol "(" then bracketText <$> inBrackets characterLength else pure ""

/-- One or two numbers in brackets, or nothing. -/
def precisionAndScale? : Parser (Option (String × Option String)) := do
  if ← symbol? "(" then
    let precision ← wholeNumber
    let scale ← if ← symbol? "," then some <$> wholeNumber else pure none
    symbol ")"
    return some (precision, scale)
  else return none

def scaleText : Parser String := do
  match ← precisionAndScale? with
  | none => return ""
  | some (precision, scale) =>
    return bracketText (precision ++ optionText ("," ++ ·) scale)

/-- A text type that may be called varying or a large object. -/
def characterType (word : String) : Parser String := do
  if ← keyword? "VARYING" then return word ++ " VARYING" ++ (← characterLengthText)
  else if ← keywords? ["LARGE", "OBJECT"] then return word ++ " LARGE OBJECT" ++ (← precisionText)
  else return word ++ (← characterLengthText)

/-- A type of times, whose zone may be said. -/
def timeType (word : String) : Parser String := do
  let precision ← precisionText
  if ← keyword? "WITH" then
    keywords ["TIME", "ZONE"]
    return word ++ precision ++ " WITH TIME ZONE"
  else if ← keyword? "WITHOUT" then
    keywords ["TIME", "ZONE"]
    return word ++ precision ++ " WITHOUT TIME ZONE"
  else return word ++ precision

/-- The parameters of a type with a name of its own; commas may stand anywhere among them. -/
def customParameter? : Parser (Option (List String)) := do
  match ← next with
  | .symbol "," => return some []
  | .symbol ")" => return none
  | .word text => return some [text]
  | .quoted quote text => return some [enclosed quote text]
  | .number text _ => return some [text]
  | .string text => return some [text]
  | _ => failure

/-- The end of the parameters of a type; `>>` ends those of two types. -/
def closeAngle (closed : Bool) : Parser Bool := do
  if closed then return false
  else if ← symbol? ">" then return false
  else if ← symbol? ">>" then return true
  else failure

/-- A type, and whether the mark that ended it ends the type around it too. -/
abbrev OpenType := TypeName × Bool

namespace Grammar

def customType (g : Grammar) : Parser TypeName := do
  let name ← g.objectNameText
  if ← symbol? "(" then
    let parameters ← repeated g.steps customParameter?
    let parameters := parameters.flatten
    let text := if parameters.isEmpty then name else name ++ bracketText (commaText parameters)
    return ⟨text, .custom⟩
  else return ⟨name, .custom⟩

/-- The sizes in square brackets behind a type. -/
def arraySizes (g : Grammar) : Parser String := do
  let sizes ← repeated g.steps do
    if ← symbol? "[" then
      let size ← attempt wholeNumber
      symbol "]"
      return some ("[" ++ size.getD "" ++ "]")
    else return none
  return String.join sizes

/-- A field of a structure, whose name may be left out. -/
def structField (fieldType : Parser OpenType) : Parser (String × Bool) := do
  let isNamed : Bool ← do
    match ← peek, ← peekAt 1 with
    | some first, some second => pure (first.name?.isSome && second.name?.isSome)
    | _, _ => pure false
  let name ← if isNamed then some <$> identifier else pure none
  let (type, closed) ← fieldType
  return (optionText (· ++ " ") (name.map Identifier.text) ++ type.text, closed)

/-- The fields of a structure, up to the mark that closes them. -/
def structFields (steps : Nat) (fieldType : Parser OpenType) :
    Parser (List String × Bool) :=
  match steps with
  | 0 => failure
  | steps + 1 => do
    let (field, closed) ← structField fieldType
    if closed then
      guard !(← nextIsSymbol ",")
      return ([field], ← closeAngle true)
    else if ← symbol? "," then
      let (fields, closed) ← structFields steps fieldType
      return (field :: fields, closed)
    else return ([field], ← closeAngle false)

/-- A field of a union. -/
def unionField (fieldType : Parser String) : Parser String := do
  let name ← identifier
  return name.text ++ " " ++ (← fieldType)

/-- The type that a keyword leads; every other word begins a name of its own. -/
def builtinType? (g : Grammar) (word : String) (element : Parser OpenType) :
    Option (Parser OpenType) :=
  let closed (text : Parser String) : Option (Parser OpenType) :=
    some do return (⟨← text, .builtin⟩, false)
  let inner : Parser String := do
    let (type, isClosed) ← element
    guard !isClosed
    return type.text
  if let some text := Table.get? plainTypes word then closed (pure text)
  else if sizedTypes.contains word then closed do return word ++ (← precisionText)
  else if integerTypes.contains word then closed do
    let precision ← precisionText
    return word ++ precision ++ (if ← keyword? "UNSIGNED" then " UNSIGNED" else "")
  else if decimalTypes.contains word then closed do return word ++ (← scaleText)
  else
    match word with
    | "DOUBLE" => closed do return if ← keyword? "PRECISION" then "DOUBLE PRECISION" else "DOUBLE"
    | "VARCHAR" => closed do return "VARCHAR" ++ (← characterLengthText)
    | "NVARCHAR" => closed do return "NVARCHAR" ++ (← characterLengthText)
    | "CHARACTER" => closed (characterType "CHARACTER")
    | "CHAR" => closed (characterType "CHAR")
    | "TIMESTAMP" => closed (timeType "TIMESTAMP")
    | "TIME" => closed (timeType "TIME")
    | "TIMESTAMPTZ" => closed do return "TIMESTAMPTZ" ++ (← precisionText)
    | "TIMETZ" => closed do return "TIMETZ" ++ (← precisionText)
    | "DATETIME64" => closed <| inBrackets do
      let precision ← wholeNumber
      let zone ← if ← symbol? "," then some <$> literalString else pure none
      return "DateTime64(" ++ precision ++
        optionText (fun zone => ", " ++ enclosed '\'' zone) zone ++ ")"
    | "FIXEDSTRING" => closed <| inBrackets do return "FixedString(" ++ (← wholeNumber) ++ ")"
    | "ENUM" => closed <| inBrackets do
      return "ENUM(" ++ commaText ((← g.commas quotedString).map stringText) ++ ")"
    | "SET" => closed <| inBrackets do
      return "SET(" ++ commaText ((← g.commas quotedString).map stringText) ++ ")"
    | "INTERVAL" => some (pure (⟨"INTERVAL", .interval⟩, false))
    | "ARRAY" => some do
      symbol "<"
      let (type, isClosed) ← element
      return (⟨"ARRAY<" ++ type.text ++ ">", .builtin⟩, ← closeAngle isClosed)
    | "STRUCT" => some do
      if ← symbol? "<" then
        let (fields, isClosed) ← structFields g.steps element
        return (⟨"STRUCT<" ++ commaText fields ++ ">", .builtin⟩, isClosed)
      else return (⟨"STRUCT", .builtin⟩, false)
    | "UNION" => closed <| inBrackets do
      return "UNION(" ++ commaText (← g.commas (unionField inner)) ++ ")"
    | "NULLABLE" => closed <| inBrackets do return "Nullable(" ++ (← inner) ++ ")"
    | "LOWCARDINALITY" => closed <| inBrackets do return "LowCardinality(" ++ (← inner) ++ ")"
    | "MAP" => closed <| inBrackets do
      let key ← inner
      symbol ","
      return "Map(" ++ key ++ ", " ++ (← inner) ++ ")"
    | "TUPLE" => closed <| inBrackets do
      return "Tuple(" ++ commaText ((← g.commas (structField element)).map (·.1)) ++ ")"
    | "NESTED" => closed <| inBrackets do
      return "Nested(" ++ commaText (← g.commas (g.columnText inner)) ++ ")"
    | _ => none

/-- A type whose elements are nested at most so many times. -/
def openType (g : Grammar) : Nat → Parser OpenType
  | 0 => failure
  | depth + 1 => do
    let builtin := (← peekKeyword).bind fun word => g.builtinType? word (g.openType depth)
    let (type, closed) ← match builtin with
      | some builtin => do
        let _ ← next
        builtin
      | none => do
        guard ((← peek).bind Token.name?).isSome
        pure (← g.customType, false)
    let sizes ← g.arraySizes
    if sizes.isEmpty then return (type, closed) else return (⟨type.text ++ sizes, .builtin⟩, closed)

def typeName (g : Grammar) : Parser TypeName := do
  let (type, closed) ← g.openType g.steps
  guard !closed
  return type

end Grammar

end SearchSql.Sql
