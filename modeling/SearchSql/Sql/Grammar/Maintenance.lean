import SearchSql.Sql.Grammar.Definition

/-!
# Statements that move data or tend to a server

Copying and unloading tables, cursors, caches, and the upkeep of tables and logs. Nothing of them is
kept.
-/

namespace SearchSql.Sql.Grammar

open SearchSql.Sql.Parser

/-- A text of one byte. -/
def literalMark : Parser Unit := do
  guard ((← literalString).utf8ByteSize == 1)

def copyOption (g : Grammar) : Parser Unit := do
  match ← oneOf [
    "FORMAT", "FREEZE", "DELIMITER", "NULL", "HEADER", "QUOTE", "ESCAPE", "FORCE_QUOTE",
    "FORCE_NOT_NULL", "FORCE_NULL", "ENCODING"] with
  | "FORMAT" =>
    let _ ← identifier
  | "FREEZE" =>
    let _ ← oneOf? ["TRUE", "FALSE"]
  | "HEADER" =>
    let _ ← oneOf? ["TRUE", "FALSE"]
  | "DELIMITER" => literalMark
  | "QUOTE" => literalMark
  | "ESCAPE" => literalMark
  | "NULL" =>
    let _ ← literalString
  | "ENCODING" =>
    let _ ← literalString
  | _ =>
    let _ ← g.columnList

/-- A mark in the older spelling of an option. -/
def copyMark : Parser Unit := do
  let _ ← keyword? "AS"
  literalMark

/-- What the older spelling says of values with commas between them. -/
def separatedOption (g : Grammar) : Parser Unit := do
  match ← oneOf ["HEADER", "QUOTE", "ESCAPE", "FORCE"] with
  | "HEADER" => return
  | "FORCE" =>
    if !(← keywords? ["NOT", "NULL"]) then keyword "QUOTE"
    let _ ← g.commas identifier
  | _ => copyMark

/-- An option in the older spelling, without brackets. -/
def copyWord (g : Grammar) : Parser Unit := do
  match ← oneOf ["BINARY", "DELIMITER", "NULL", "CSV"] with
  | "BINARY" => return
  | "DELIMITER" => copyMark
  | "NULL" =>
    let _ ← keyword? "AS"
    let _ ← literalString
  | _ =>
    let _ ← repeated g.steps (attempt g.separatedOption)

/-- The tokens behind rows in the text itself, which a backslash with a dot ends. -/
def afterRows : List Token → List Token
  | [] => []
  | [_] => []
  | token :: following :: rest =>
    if token = .symbol "\\" then
      if following = .symbol "." then rest else afterRows rest
    else afterRows (following :: rest)

/-- Passes over the rows that follow a statement in the text itself. -/
def passRows : Parser Unit := fun tokens => some ((), afterRows tokens)

def copying (g : Grammar) : Parser Unit := do
  let ofQuery ← nextIsSymbol "("
  if ofQuery then
    let _ ← inBrackets g.query
  else
    let _ ← g.objectName
    let _ ← g.columnList?
  let direction ← oneOf ["FROM", "TO"]
  guard !(ofQuery && direction == "FROM")
  let place ← oneOf? ["STDIN", "STDOUT", "PROGRAM"]
  if place.isNone || place == some "PROGRAM" then
    let _ ← literalString
  let _ ← keyword? "WITH"
  if ← nextIsSymbol "(" then
    let _ ← inBrackets (g.commas g.copyOption)
  let _ ← repeated g.steps (attempt g.copyWord)
  if place == some "STDIN" then
    symbol ";"
    passRows

def unloading (g : Grammar) : Parser Unit := do
  let _ ← inBrackets g.query
  keyword "TO"
  let _ ← identifier
  g.settings ["WITH"]

/-- A cursor over a query. -/
def declaration (g : Grammar) : Parser Unit := do
  let _ ← identifier
  let _ ← keyword? "BINARY"
  let _ ← oneOf? ["INSENSITIVE", "ASENSITIVE"]
  if !(← keyword? "SCROLL") then
    let _ ← keywords? ["NO", "SCROLL"]
  keyword "CURSOR"
  if (← oneOf? ["WITH", "WITHOUT"]).isSome then keyword "HOLD"
  keyword "FOR"
  let _ ← g.query

/-- Which rows a cursor gives: a place among them, or how many of them. -/
def fetchedRows : Parser Unit := do
  if (← oneOf? ["NEXT", "PRIOR", "FIRST", "LAST"]).isSome then return
  if (← oneOf? ["ABSOLUTE", "RELATIVE"]).isSome then
    let _ ← numericLiteral
  else
    let _ ← oneOf? ["FORWARD", "BACKWARD"]
    if !(← keyword? "ALL") then
      let _ ← numericLiteral

def fetching (g : Grammar) : Parser Unit := do
  fetchedRows
  let _ ← oneOf ["FROM", "IN"]
  let _ ← identifier
  let _ ← after? "INTO" g.objectName

/-- A table to be kept at hand. Whatever stands behind its options is a query for its rows. -/
def caching (g : Grammar) : Parser Unit := do
  if !(← keyword? "TABLE") then
    let _ ← g.objectName
    keyword "TABLE"
  let _ ← g.objectName
  g.settings ["OPTIONS"]
  match ← peek with
  | none => return
  | some token =>
    guard token.name?.isSome
    let _ ← keyword? "AS"
    let _ ← g.query

def optimization (g : Grammar) : Parser Unit := do
  keyword "TABLE"
  let _ ← g.objectName
  onCluster
  if ← keyword? "PARTITION" then
    if ← keyword? "ID" then
      let _ ← identifier
    else
      let _ ← g.expression
  let _ ← keyword? "FINAL"
  if ← keyword? "DEDUPLICATE" then
    let _ ← after? "BY" g.expression

/--
What may follow FLUSH TABLES: names and locks. Any other keyword is passed over, and any other token
ends the list and belongs to it.
-/
def flushedTable? (g : Grammar) : Parser (Option Unit) := do
  match ← peek with
  | none => return none
  | some token =>
    if token.isPlainName then
      let _ ← g.commas g.objectName
      return some ()
    else
      match (← next).keyword? with
      | none => return none
      | some "WITH" =>
        let _ ← keywords? ["READ", "LOCK"]
        return some ()
      | some "FOR" =>
        let _ ← keyword? "EXPORT"
        return some ()
      | some _ => return some ()

/-- The logs that have a word of their own in front. -/
def kindsOfLog : List String := ["BINARY", "ENGINE", "ERROR", "GENERAL", "SLOW"]

def flushing (g : Grammar) : Parser Unit := do
  let _ ← oneOf? ["NO_WRITE_TO_BINLOG", "LOCAL"]
  if (← oneOf? kindsOfLog).isSome then keyword "LOGS"
  else
    match ← oneOf [
      "RELAY", "HOSTS", "PRIVILEGES", "LOGS", "OPTIMIZER_COSTS", "STATUS", "USER_RESOURCES",
      "TABLES"] with
    | "RELAY" =>
      keyword "LOGS"
      let _ ← afterWords? ["FOR", "CHANNEL"] g.objectName
    | "TABLES" =>
      let _ ← repeated g.steps g.flushedTable?
    | _ => return

/-- The partitions of a table compared with its files. -/
def repair (g : Grammar) : Parser Unit := do
  let _ ← keyword? "REPAIR"
  keyword "TABLE"
  let _ ← g.objectName
  let _ ← attempt do
    let _ ← oneOf? ["ADD", "DROP", "SYNC"]
    keyword "PARTITIONS"

/-- A statement of this kind after its keyword. -/
def maintenance (g : Grammar) (word : String) : Parser Unit := do
  match word with
  | "COPY" => g.copying
  | "UNLOAD" => g.unloading
  | "DECLARE" => g.declaration
  | "FETCH" => g.fetching
  | "CACHE" => g.caching
  | "UNCACHE" =>
    keyword "TABLE"
    ifExists
    let _ ← g.objectName
  | "MSCK" => g.repair
  | "ATTACH" =>
    let _ ← keyword? "DATABASE"
    let _ ← g.expression
    keyword "AS"
    let _ ← identifier
  | "DETACH" =>
    let _ ← keyword? "DATABASE"
    ifExists
    let _ ← identifier
  | "OPTIMIZE" => g.optimization
  | "FLUSH" => g.flushing
  | _ => failure

end SearchSql.Sql.Grammar
