import SearchSql.Sql.Grammar.Definition

/-!
# What may be created and dropped

Functions, procedures, triggers, types, macros and secrets, and the choice among all that may
follow CREATE or DROP.
-/

namespace SearchSql.Sql.Grammar

open SearchSql.Sql.Parser

/-- The body of a function, in quotes or between dollar signs. -/
def functionBody : Parser Unit := do
  match ← peek with
  | some (.literal (.dollar _) _) =>
    let _ ← next
  | _ =>
    let _ ← literalString

/-- An argument of a function: its type, which a name may stand before. -/
def functionArgument (g : Grammar) : Parser Unit := do
  let _ ← oneOf? ["IN", "OUT", "INOUT"]
  let first ← g.typeName
  if first.family = .custom then
    let _ ← g.typeName
  if ← either (keyword? "DEFAULT") (symbol? "=") then
    let _ ← g.expression

/-- What may be said about a function, each once at most. -/
inductive FunctionTrait
  | body
  | language
  | volatility
  | onNull
  | parallel
  | result
deriving DecidableEq

def functionTrait? (g : Grammar) : Parser (Option FunctionTrait) := do
  if ← keyword? "AS" then
    functionBody
    return some .body
  else if ← keyword? "LANGUAGE" then
    let _ ← identifier
    return some .language
  else if (← oneOf? ["IMMUTABLE", "STABLE", "VOLATILE"]).isSome then return some .volatility
  else if ← keywords? ["CALLED", "ON", "NULL", "INPUT"] then return some .onNull
  else if ← keywords? ["RETURNS", "NULL", "ON", "NULL", "INPUT"] then return some .onNull
  else if ← keyword? "STRICT" then return some .onNull
  else if ← keyword? "PARALLEL" then
    let _ ← oneOf ["UNSAFE", "RESTRICTED", "SAFE"]
    return some .parallel
  else if ← keyword? "RETURN" then
    let _ ← g.expression
    return some .result
  else return none

/-- A text that defines a function gives its body as a string or as what it returns, not both. -/
def FunctionTrait.slot : FunctionTrait → FunctionTrait
  | .result => .body
  | other => other

def createFunction (g : Grammar) : Parser Unit := do
  let _ ← g.objectName
  let _ ← inBrackets (commaSeparatedUntil g.steps ")" g.functionArgument)
  let _ ← after? "RETURNS" g.typeName
  let given ← repeated g.steps g.functionTrait?
  guard (given.map FunctionTrait.slot).Nodup

def triggerEvent (g : Grammar) : Parser Unit := do
  if (← oneOf ["INSERT", "UPDATE", "DELETE", "TRUNCATE"]) == "UPDATE" then
    let _ ← after? "OF" (g.commas identifier)

def triggerEvents (g : Grammar) : Parser Unit := do
  g.triggerEvent
  let _ ← repeated g.steps (after? "OR" g.triggerEvent)

/-- A name for the rows before or after a change. Without TABLE the first word ends the list. -/
def triggerRows? (g : Grammar) : Parser (Option Unit) := do
  if (← oneOf? ["OLD", "NEW"]).isSome then
    after? "TABLE" do
      let _ ← keyword? "AS"
      let _ ← g.objectName
  else return none

def createTrigger (g : Grammar) : Parser Unit := do
  let _ ← g.objectName
  if ← keyword? "INSTEAD" then keyword "OF"
  else
    let _ ← oneOf ["BEFORE", "AFTER"]
  g.triggerEvents
  keyword "ON"
  let _ ← g.objectName
  let _ ← after? "FROM" passNames
  let _ ← constraintTraits
  let _ ← after? "REFERENCING" (repeated g.steps g.triggerRows?)
  keyword "FOR"
  let _ ← keyword? "EACH"
  let _ ← oneOf ["ROW", "STATEMENT"]
  let _ ← after? "WHEN" g.expression
  keyword "EXECUTE"
  let _ ← oneOf ["FUNCTION", "PROCEDURE"]
  let _ ← g.objectName
  if ← nextIsSymbol "(" then
    let _ ← inBrackets (commaSeparatedUntil g.steps ")" g.functionArgument)

def typeAttribute (g : Grammar) : Parser Unit := do
  let _ ← identifier
  let _ ← g.typeName
  let _ ← after? "COLLATE" g.objectName

/-- Items with commas between them, up to a closing bracket that a comma may stand before. -/
def bracketItems (item : Parser Unit) : (steps : Nat) → Parser Unit
  | 0 => failure
  | steps + 1 => do
    item
    let comma ← symbol? ","
    if ← symbol? ")" then return
    guard comma
    bracketItems item steps

/-- Items in brackets, if there are brackets. -/
def bracketItems? (g : Grammar) (item : Parser Unit) : Parser Unit := do
  if ← symbol? "(" then
    if ← symbol? ")" then return
    bracketItems item g.steps

def createType (g : Grammar) : Parser Unit := do
  let _ ← g.objectName
  keyword "AS"
  g.bracketItems? g.typeAttribute

/-- A parameter of a procedure. Its place may be left empty. -/
def parameter (g : Grammar) : Parser Unit := do
  if ((← peek).bind Token.name?).isSome then
    let _ ← identifier
    let _ ← g.typeName

/--
Statements with semicolons between them. END behind a statement ends them, and behind a semicolon it
is a statement of its own.
-/
def statementRun (statement : Parser Statement) : (steps : Nat) → (separated : Bool) → Parser Unit
  | 0, _ => failure
  | steps + 1, separated => do
    if ← symbol? ";" then statementRun statement steps true
    else
      match ← peek with
      | none => return
      | some token =>
        if separated then
          let _ ← statement
          statementRun statement steps false
        else guard (token.keyword? == some "END")

def createProcedure (g : Grammar) : Parser Unit := do
  let _ ← g.objectName
  g.bracketItems? g.parameter
  keywords ["AS", "BEGIN"]
  statementRun g.below.statement g.steps true
  keyword "END"

/-- A macro, whose parameters may have defaults. -/
def createMacro (g : Grammar) : Parser Unit := do
  let _ ← g.objectName
  let _ ← inBrackets <| commaSeparatedUntil g.steps ")" do
    let _ ← identifier
    if ← either (symbol? ":=") (symbol? "=>") then
      let _ ← g.expression
  keyword "AS"
  if ← keyword? "TABLE" then
    let _ ← g.query
  else
    let _ ← g.expression

/-- The name of a secret or where it is kept, or both; a token that is no name is passed over. -/
def secretName : Parser Unit := do
  if ← nextIsSymbol "(" then return
  let isPlace ← keyword? "IN"
  let isName ← passName
  if !(isPlace && isName) then
    let _ ← after? "IN" passName

/-- A secret: its name, where it is kept, its type and its options. -/
def createSecret (g : Grammar) : Parser Unit := do
  ifNotExists
  secretName
  inBrackets do
    keyword "TYPE"
    let _ ← identifier
    if ← symbol? "," then
      let _ ← g.commas do
        let _ ← identifier
        identifier

/-- An extension, with what may be said of it in this order. -/
def createExtension : Parser Unit := do
  ifNotExists
  let _ ← identifier
  if ← keyword? "WITH" then
    let _ ← after? "SCHEMA" identifier
    let _ ← after? "VERSION" identifier
    let _ ← keyword? "CASCADE"

def createVirtualTable (g : Grammar) : Parser Unit := do
  keyword "TABLE"
  ifNotExists
  let _ ← g.objectName
  keyword "USING"
  let _ ← identifier
  let _ ← g.columnList?

def createSchema (g : Grammar) : Parser Unit := do
  ifNotExists
  if ← keyword? "AUTHORIZATION" then
    let _ ← identifier
  else
    let _ ← g.objectName
    let _ ← after? "AUTHORIZATION" identifier

def createDatabase (g : Grammar) : Parser Unit := do
  ifNotExists
  let _ ← g.objectName
  let _ ← repeated g.steps do
    match ← oneOf? ["LOCATION", "MANAGEDLOCATION"] with
    | some _ => some <$> literalString
    | none => return none

/-- Something that only a new definition makes, which replaces none. -/
def createNew (g : Grammar) : Parser Unit := do
  if ← keyword? "EXTENSION" then createExtension
  else if ← keyword? "INDEX" then g.createIndex
  else if ← keywords? ["UNIQUE", "INDEX"] then g.createIndex
  else if ← keyword? "VIRTUAL" then g.createVirtualTable
  else if ← keyword? "SCHEMA" then g.createSchema
  else if ← keyword? "DATABASE" then g.createDatabase
  else if ← keyword? "ROLE" then
    ifNotExists
    let _ ← g.commas g.objectName
    let _ ← keyword? "WITH"
  else if ← keyword? "SEQUENCE" then g.createSequence
  else if ← keyword? "TYPE" then g.createType
  else
    keyword "PROCEDURE"
    g.createProcedure

/-- A definition, after its keyword. -/
def create (g : Grammar) : Parser Unit := do
  let replaces ← keywords? ["OR", "REPLACE"]
  let _ ← keywords? ["OR", "ALTER"]
  let _ ← keyword? "LOCAL"
  let _ ← keyword? "GLOBAL"
  let _ ← keyword? "TRANSIENT"
  let _ ← oneOf? ["TEMP", "TEMPORARY"]
  if ← keyword? "TABLE" then g.createTable
  else if ← keyword? "MATERIALIZED" then g.createView
  else if (← peekKeyword) == some "VIEW" then g.createView
  else if ← keyword? "EXTERNAL" then g.createExternalTable
  else if ← keyword? "FUNCTION" then g.createFunction
  else if ← keyword? "TRIGGER" then g.createTrigger
  else if ← keywords? ["CONSTRAINT", "TRIGGER"] then g.createTrigger
  else if ← keyword? "MACRO" then g.createMacro
  else if ← keyword? "SECRET" then g.createSecret
  else
    guard !replaces
    g.createNew

/-- Functions or procedures by their names, which arguments may tell apart. -/
def dropRoutines (g : Grammar) : Parser Unit := do
  ifExists
  let _ ← g.commas do
    let _ ← g.objectName
    if ← nextIsSymbol "(" then
      let _ ← inBrackets (commaSeparatedUntil g.steps ")" g.functionArgument)
  let _ ← oneOf? ["CASCADE", "RESTRICT"]

/-- What is dropped, after its keyword. -/
def drop (g : Grammar) : Parser Unit := do
  let _ ← keyword? "TEMPORARY"
  let kind ← oneOf [
    "TABLE", "VIEW", "INDEX", "ROLE", "SCHEMA", "SEQUENCE", "STAGE", "FUNCTION", "PROCEDURE",
    "SECRET", "TRIGGER"]
  match kind with
  | "FUNCTION" => g.dropRoutines
  | "PROCEDURE" => g.dropRoutines
  | "SECRET" =>
    ifExists
    let _ ← identifier
    let _ ← after? "FROM" passName
  | "TRIGGER" =>
    ifExists
    let _ ← g.objectName
    keyword "ON"
    let _ ← g.objectName
    let _ ← oneOf? ["CASCADE", "RESTRICT"]
  | _ =>
    ifExists
    let _ ← g.commas g.objectName
    let cascade ← keyword? "CASCADE"
    let restrict ← keyword? "RESTRICT"
    let purge ← keyword? "PURGE"
    guard !(cascade && restrict)
    guard !(kind == "ROLE" && (cascade || restrict || purge))

end SearchSql.Sql.Grammar
