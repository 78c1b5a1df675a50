import SearchSql.Sql.Grammar.Maintenance
import SearchSql.Sql.Grammar.Routine
import SearchSql.Sql.Token.Lexer

/-!
# Statements

Queries and deletions are kept; of every other statement it only matters that it is one.
`Level.within` ties the rules together: each level may refer to the one below it.
-/

namespace SearchSql.Sql

open SearchSql.Sql.Parser

namespace Grammar

/-- A deletion, after its keyword. Its order is not kept. -/
def deletion (g : Grammar) : Parser Deletion := do
  let _ ← keyword? "FROM"
  let tables ← g.tables
  let _ ← after? "USING" g.tables
  let predicate ← after? "WHERE" g.expression
  let _ ← g.returningText
  let _ ← g.orderText?
  let limit ← after? "LIMIT" do
    if ← keyword? "ALL" then pure none else some <$> g.expression
  return { tables, predicate, limit := limit.join }

/-- A query, which common tables may stand before; behind those, rows may also be put or changed. -/
def queryRule (g : Grammar) : Parser SelectQuery := do
  let lead ← g.withText
  if ← keyword? "INSERT" then return { body := none, text := lead ++ (← g.insertion) }
  else if ← keyword? "UPDATE" then return { body := none, text := lead ++ (← g.update) }
  else g.boundedQuery lead

/-- The statement that is to be explained, or the name of a table. -/
def explanation (g : Grammar) : Parser Statement := do
  let _ ← keyword? "ANALYZE"
  let _ ← keyword? "VERBOSE"
  let _ ← after? "FORMAT" (oneOf ["TEXT", "GRAPHVIZ", "JSON"])
  match ← attempt g.below.statement with
  | some .explanation => failure
  | some _ => return .explanation
  | none =>
    let _ ← oneOf? ["EXTENDED", "FORMATTED"]
    let _ ← g.objectName
    return .explanation

def showFilter (g : Grammar) : Parser Unit := do
  if (← oneOf? ["LIKE", "ILIKE"]).isSome then
    let _ ← literalString
  else
    let _ ← after? "WHERE" g.expression

/-- Passes over everything up to an equals sign. -/
def passOver : Parser Unit := fun tokens =>
  some ((), tokens.dropWhile (· != .symbol "="))

def showing (g : Grammar) : Parser Unit := do
  let extended ← keyword? "EXTENDED"
  let full ← keyword? "FULL"
  let _ ← keyword? "SESSION"
  let _ ← keyword? "GLOBAL"
  if (← oneOf? ["COLUMNS", "FIELDS"]).isSome then
    let _ ← oneOf ["FROM", "IN"]
    let _ ← g.objectName
    if (← oneOf? ["FROM", "IN"]).isSome then
      let _ ← identifier
    g.showFilter
  else if ← keyword? "TABLES" then
    if (← oneOf? ["FROM", "IN"]).isSome then
      let _ ← identifier
    g.showFilter
  else if ← keyword? "FUNCTIONS" then g.showFilter
  else
    guard !(extended || full)
    if ← keyword? "CREATE" then
      let _ ← oneOf ["TABLE", "TRIGGER", "FUNCTION", "PROCEDURE", "EVENT", "VIEW"]
      let _ ← g.objectName
    else if (← oneOf? ["COLLATION", "VARIABLES", "STATUS"]).isSome then g.showFilter
    else passOver

def transactionModes (g : Grammar) : Parser Unit := do
  let mode : Parser Bool := do
    if ← keywords? ["ISOLATION", "LEVEL"] then
      if ← keywords? ["READ", "UNCOMMITTED"] then return true
      else if ← keywords? ["READ", "COMMITTED"] then return true
      else if ← keywords? ["REPEATABLE", "READ"] then return true
      else
        keyword "SERIALIZABLE"
        return true
    else if ← keywords? ["READ", "ONLY"] then return true
    else keywords? ["READ", "WRITE"]
  let rec modes : Nat → Bool → Parser Unit
    | 0, _ => failure
    | steps + 1, required => do
      if ← mode then modes steps (← symbol? ",") else guard !required
  modes g.steps false

def chain : Parser Unit := do
  let _ ← oneOf? ["TRANSACTION", "WORK"]
  if ← keyword? "AND" then
    let _ ← keyword? "NO"
    keyword "CHAIN"

/-- A value that a variable is set to. -/
def variableValue (g : Grammar) : Parser Unit := do
  if ((← peekKeyword).map ["SELECT", "WITH"].contains).getD false then
    let _ ← g.query
  else
    let _ ← g.expression

/-- The role to act in. What does not read as a role is read as a variable of that name. -/
def role : Parser Unit := do
  keyword "ROLE"
  let _ ← identifier

def setting (g : Grammar) : Parser Unit := do
  let modifier ← oneOf? ["SESSION", "LOCAL", "HIVEVAR"]
  if modifier == some "HIVEVAR" then symbol ":"
  else if (← attempt role).isSome then return
  if ← nextIsSymbol "(" then
    let _ ← inBrackets (g.commas identifier)
    if !(← symbol? "=") then keyword "TO"
    inBrackets do
      let _ ← g.commas g.variableValue
    return
  let name ← if ← keywords? ["TIME", "ZONE"] then pure "TIMEZONE" else g.objectNameText
  if name.map Char.toUpper == "NAMES" then
    if ← keyword? "DEFAULT" then return
    let _ ← literalString
    let _ ← after? "COLLATE" literalString
    return
  if ← either (symbol? "=") (keyword? "TO") then
    let _ ← g.commas g.variableValue
  else if name.map Char.toUpper == "TIMEZONE" then
    let _ ← g.expression
  else if name == "CHARACTERISTICS" then
    keywords ["AS", "TRANSACTION"]
    g.transactionModes
  else
    guard (name == "TRANSACTION" && modifier.isNone)
    if ← keyword? "SNAPSHOT" then
      let _ ← literal
    else g.transactionModes

def truncation (g : Grammar) : Parser Unit := do
  let _ ← keyword? "TABLE"
  let _ ← g.objectName
  let _ ← after? "PARTITION" g.bracketList

/-- What is looked for in a table, or left out of the search. -/
def analysisTrait? (g : Grammar) : Parser (Option Unit) := do
  match ← oneOf? ["PARTITION", "FOR", "CACHE", "NOSCAN", "COMPUTE"] with
  | none => return none
  | some "PARTITION" => some <$> g.bracketList
  | some "FOR" =>
    keyword "COLUMNS"
    let _ ← attempt (g.commas identifier)
    return some ()
  | some "CACHE" => some <$> keyword "METADATA"
  | some "COMPUTE" => some <$> keyword "STATISTICS"
  | some _ => return some ()

def analysis (g : Grammar) : Parser Unit := do
  keyword "TABLE"
  let _ ← g.objectName
  let _ ← repeated g.steps g.analysisTrait?

/-- Which rows a clause of a merge is about: those that the target lacks can only be inserted. -/
def mergedRows : Parser Bool := do
  if ← keyword? "NOT" then
    keyword "MATCHED"
    if ← keywords? ["BY", "SOURCE"] then return false
    let _ ← keywords? ["BY", "TARGET"]
    return true
  else
    keyword "MATCHED"
    return false

/-- What to do with the rows that a merge has matched or not matched. -/
def mergeClause (g : Grammar) : Parser Unit := do
  keyword "WHEN"
  let inserts ← mergedRows
  let _ ← after? "AND" g.expression
  keyword "THEN"
  if inserts then
    keyword "INSERT"
    let _ ← g.columnList?
    if !(← keyword? "ROW") then
      keyword "VALUES"
      let _ ← g.valuesText
  else if ← keyword? "UPDATE" then
    keyword "SET"
    let _ ← g.assignmentsText
  else keyword "DELETE"

/-- The clauses of a merge, which go on to the end of the statement. -/
def merge (g : Grammar) : Parser Unit := do
  let _ ← keyword? "INTO"
  let _ ← g.relation
  keyword "USING"
  let _ ← g.relation
  keyword "ON"
  let _ ← g.expression
  let _ ← repeated g.steps do
    if (← peek).isNone || (← nextIsSymbol ";") then return none else some <$> g.mergeClause

/-- A privilege. Some are given for columns. -/
def privilege (g : Grammar) : Parser Unit := do
  match ← oneOf? ["INSERT", "REFERENCES", "SELECT", "UPDATE"] with
  | some _ =>
    let _ ← g.columnList?
  | none =>
    let _ ← oneOf [
      "CONNECT", "CREATE", "DELETE", "EXECUTE", "TEMPORARY", "TRIGGER", "TRUNCATE", "USAGE"]

/-- Privileges, and what they are for. -/
def privileges (g : Grammar) : Parser Unit := do
  if ← keyword? "ALL" then
    let _ ← keyword? "PRIVILEGES"
  else
    let _ ← g.commas g.privilege
  keyword "ON"
  if !(← keywords? ["ALL", "TABLES", "IN", "SCHEMA"]) then
    if !(← keywords? ["ALL", "SEQUENCES", "IN", "SCHEMA"]) then
      let _ ← oneOf? ["SEQUENCE", "SCHEMA", "TABLE"]
  let _ ← g.commas g.objectName

def grant (g : Grammar) : Parser Unit := do
  g.privileges
  keyword "TO"
  let _ ← g.commas identifier
  let _ ← keywords? ["WITH", "GRANT", "OPTION"]
  let _ ← afterWords? ["GRANTED", "BY"] identifier

def revocation (g : Grammar) : Parser Unit := do
  g.privileges
  keyword "FROM"
  let _ ← g.commas identifier
  let _ ← afterWords? ["GRANTED", "BY"] identifier
  let _ ← oneOf? ["CASCADE", "RESTRICT"]

/-- A value of a setting: a number, a string, or a placeholder for one. -/
def plainValue : Parser Unit := do
  match ← peek with
  | some (.literal ..) => failure
  | some (.word _) => failure
  | _ =>
    let _ ← literal

/-- A setting of the store that may be read or given a value. -/
def pragma (g : Grammar) : Parser Unit := do
  let _ ← g.objectName
  if ← nextIsSymbol "(" then inBrackets plainValue
  else if ← symbol? "=" then plainValue

/-- A statement that is about transactions or sessions, after its keyword. -/
def control (g : Grammar) (word : String) : Parser Unit := do
  match word with
  | "START" =>
    keyword "TRANSACTION"
    g.transactionModes
  | "BEGIN" =>
    let _ ← oneOf? ["DEFERRED", "IMMEDIATE", "EXCLUSIVE"]
    let _ ← oneOf? ["TRANSACTION", "WORK"]
    g.transactionModes
  | "COMMIT" => chain
  | "END" => chain
  | "ROLLBACK" =>
    chain
    if ← keyword? "TO" then
      let _ ← keyword? "SAVEPOINT"
      let _ ← identifier
  | "SAVEPOINT" =>
    let _ ← identifier
  | "RELEASE" =>
    let _ ← keyword? "SAVEPOINT"
    let _ ← identifier
  | "KILL" =>
    let _ ← oneOf? ["CONNECTION", "QUERY", "MUTATION"]
    let _ ← wholeNumber
  | "PREPARE" =>
    let _ ← identifier
    if ← nextIsSymbol "(" then
      let _ ← inBrackets (g.commas g.typeName)
    keyword "AS"
    let _ ← g.below.statement
  | "EXECUTE" =>
    let _ ← identifier
    if ← nextIsSymbol "(" then g.bracketList
    let _ ← after? "USING" g.expressions
  | "DEALLOCATE" =>
    let _ ← keyword? "PREPARE"
    let _ ← identifier
  | "DISCARD" =>
    let _ ← oneOf ["ALL", "PLANS", "SEQUENCES", "TEMP", "TEMPORARY"]
  | "CLOSE" =>
    if !(← keyword? "ALL") then
      let _ ← identifier
  | word => g.maintenance word

/-- A statement that is neither a query, a deletion nor an explanation, after its keyword. -/
def otherStatement (g : Grammar) (word : String) : Parser Unit := do
  match word with
  | "INSERT" =>
    let _ ← g.insertion
  | "REPLACE" =>
    let _ ← g.insertion
  | "UPDATE" =>
    let _ ← g.update
  | "MERGE" => g.merge
  | "CREATE" => g.create
  | "DROP" => g.drop
  | "ALTER" => g.alter
  | "TRUNCATE" => g.truncation
  | "ANALYZE" => g.analysis
  | "SHOW" => g.showing
  | "SET" => g.setting
  | "USE" =>
    let _ ← identifier
  | "GRANT" => g.grant
  | "REVOKE" => g.revocation
  | "CALL" =>
    let name ← g.objectName
    if ← nextIsSymbol "(" then
      let _ ← g.call g.interval name
  | "ASSERT" =>
    let _ ← g.expression
    let _ ← after? "AS" g.expression
  | "PRAGMA" => g.pragma
  | "INSTALL" =>
    let _ ← identifier
  | "LOAD" =>
    let _ ← identifier
  | word => g.control word

def statementRule (g : Grammar) : Parser Statement := do
  match ← peek with
  | some (.symbol "(") => return .select (← g.query)
  | _ =>
    match ← peekKeyword with
    | some "SELECT" => return .select (← g.query)
    | some "WITH" => return .select (← g.query)
    | some "VALUES" => return .select (← g.query)
    | some "DELETE" =>
      keyword "DELETE"
      return .delete (← g.deletion)
    | some word =>
      let _ ← next
      if ["EXPLAIN", "DESCRIBE", "DESC"].contains word then g.explanation
      else
        g.otherStatement word
        return .other
    | none => failure

end Grammar

/--
The rules above a level. An operand within an operand is not a step of nesting, but it is shorter by
a token, so that the number of tokens bounds how often that can happen.
-/
def Grammar.within (steps : Nat) (prior : Bool) (below : Level) : (length : Nat) → Grammar
  | 0 => { steps, prior, below, operand := failure, operation := fun _ => failure }
  | length + 1 =>
    { steps, prior, below
      operand := fun tokens => (within steps prior below length).operandRule tokens
      operation := fun strength tokens =>
        (within steps prior below length).expressionRule strength tokens }

/-- What can be read with so many steps of nesting left, of a text with fewer tokens than steps. -/
def Level.within (steps : Nat) : (depth : Nat) → Level
  | 0 => .bottom
  | depth + 1 =>
    let below := within steps depth
    { expression := fun prior tokens =>
        (Grammar.within steps prior below steps).expressionRule 0 tokens
      query := fun prior tokens => (Grammar.within steps prior below steps).queryRule tokens
      statement := fun tokens => (Grammar.within steps false below steps).statementRule tokens }

/-- How deep statements, queries and expressions may be nested in each other. -/
def nestingLimit : Nat := 50

/-- Passes over the semicolons at the front. -/
def dropSemicolons (tokens : List Token) : List Token :=
  tokens.dropWhile (· == .symbol ";")

/--
Statements with semicolons between them, of which there may be more than one in a row. The word END
behind a statement ends them all, whatever follows it.
-/
def statementsFrom (statement : Parser Statement) : (steps : Nat) → List Token →
    Option (List Statement)
  | 0, _ => none
  | steps + 1, tokens =>
    match dropSemicolons tokens with
    | [] => some []
    | tokens => do
      let (first, rest) ← statement tokens
      match rest with
      | [] => some [first]
      | .symbol ";" :: rest => (statementsFrom statement steps rest).map (first :: ·)
      | token :: _ => if token.keyword? = some "END" then some [first] else none

/-- The statements of a text, if it is in the grammar. -/
def statements? (text : String) : Option (List Statement) := do
  let tokens ← Token.scan text
  let steps := tokens.length + 1
  statementsFrom (Level.within steps nestingLimit).statement steps tokens

end SearchSql.Sql
