import SearchSql.Sql.Grammar.RowChange

/-!
# Definitions

Statements that create and alter tables, views, indexes and sequences. Nothing of them is kept: it
only matters whether a text is such a statement.
-/

namespace SearchSql.Sql.Grammar

open SearchSql.Sql.Parser

def ifExists : Parser Unit := do
  let _ ← keywords? ["IF", "EXISTS"]

def ifNotExists : Parser Unit := do
  let _ ← keywords? ["IF", "NOT", "EXISTS"]

/-- Expressions in brackets. -/
def bracketList (g : Grammar) : Parser Unit := do
  let _ ← inBrackets g.expressions

def columnType (g : Grammar) : Parser String := do
  return (← g.typeName).text

def columnDefinition (g : Grammar) : Parser Unit := do
  let _ ← g.columnText g.columnType

/-- A name that may be left out. -/
def optionalName : Parser Unit := do
  let _ ← attempt identifier

/-- The method of an index, if it is said. -/
def indexMethod : Parser Unit := do
  let _ ← after? "USING" (oneOf ["BTREE", "HASH"])

/-- What may be said about an index behind its columns. -/
def indexTraits (g : Grammar) : Parser Unit := do
  let _ ← repeated g.steps do
    if ← keyword? "USING" then
      let _ ← oneOf ["BTREE", "HASH"]
      return some ()
    else
      return (← after? "COMMENT" literalString).map fun _ => ()

/-- The columns of a constraint with an index, which may have a name and a method. -/
def indexedColumns (g : Grammar) : Parser Unit := do
  optionalName
  indexMethod
  let _ ← g.columnList
  g.indexTraits
  let _ ← constraintTraits

/-- A condition on the rows of a table or an index, among its columns. -/
def tableConstraint? (g : Grammar) : Parser (Option Unit) := do
  let named := (← after? "CONSTRAINT" identifier).isSome
  if ← keyword? "UNIQUE" then
    if !(← keyword? "KEY") then
      let _ ← keyword? "INDEX"
    g.indexedColumns
  else if ← keyword? "PRIMARY" then
    keyword "KEY"
    g.indexedColumns
  else if ← keyword? "FOREIGN" then
    keyword "KEY"
    let _ ← g.columnList
    keyword "REFERENCES"
    let _ ← g.objectName
    let _ ← g.columnList
    let _ ← referenceActions
    let _ ← constraintTraits
  else if ← keyword? "CHECK" then
    let _ ← inBrackets g.expression
  else if named then failure
  else if (← oneOf? ["INDEX", "KEY"]).isSome then
    if (← peekKeyword) != some "USING" then optionalName
    indexMethod
    let _ ← g.columnList
  else if (← oneOf? ["FULLTEXT", "SPATIAL"]).isSome then
    if !(← keyword? "KEY") then
      let _ ← keyword? "INDEX"
    optionalName
    let _ ← g.columnList
  else return none
  return some ()

/-- The columns of a new table; brackets without anything between them hold none. -/
def columnDefinitions (g : Grammar) : Parser Unit := do
  if ← symbol? "(" then
    if ← symbol? ")" then return
    let _ ← g.commas do
      match ← g.tableConstraint? with
      | some _ => pure ()
      | none =>
        guard ((← peek).bind Token.name?).isSome
        g.columnDefinition
    symbol ")"

def onCluster : Parser Unit := do
  let _ ← afterWords? ["ON", "CLUSTER"] identifier

/-- The columns that the rows of a table are kept apart by. -/
def distribution (g : Grammar) : Parser Unit := do
  let _ ← afterWords? ["PARTITIONED", "BY"] (inBrackets (g.commas g.columnDefinition))

/-- A word, where the rules ask for one and quote it nowhere. -/
def plainWord : Parser Unit := do
  guard (← next).name?.isSome

/-- The engine of a table with its parameters. -/
def engine (g : Grammar) : Parser Unit := do
  let _ ← after? "ENGINE" do
    symbol "="
    plainWord
    g.columnList?

/-- The order of the rows: one expression, or any number of them in brackets. -/
def rowOrder (g : Grammar) : Parser Unit := do
  let _ ← afterWords? ["ORDER", "BY"] do
    if ← symbol? "(" then
      let _ ← commaSeparatedUntil g.steps ")" g.expression
      symbol ")"
    else
      let _ ← g.expression

/-- How the rows of a table are divided and arranged. -/
def arrangement (g : Grammar) : Parser Unit := do
  let _ ← afterWords? ["PRIMARY", "KEY"] g.expression
  g.rowOrder
  let _ ← afterWords? ["PARTITION", "BY"] g.expression
  let _ ← afterWords? ["CLUSTER", "BY"] (g.commas identifier)
  g.settings ["OPTIONS"]

/-- What becomes of the rows of a temporary table. -/
def onCommit : Parser Unit := do
  if ← keywords? ["ON", "COMMIT", "DELETE", "ROWS"] then return
  if ← keywords? ["ON", "COMMIT", "PRESERVE", "ROWS"] then return
  let _ ← keywords? ["ON", "COMMIT", "DROP"]

/-- What may follow the columns of a new table, in this order. -/
def tableTraits (g : Grammar) : Parser Unit := do
  let _ ← keywords? ["WITHOUT", "ROWID"]
  g.distribution
  g.storage
  g.settings ["WITH"]
  g.settings ["TBLPROPERTIES"]
  g.engine
  let _ ← after? "AUTO_INCREMENT" do
    let _ ← symbol? "="
    shortNumber
  g.arrangement
  let _ ← afterWords? ["DEFAULT", "CHARSET"] do
    symbol "="
    plainWord
  let _ ← after? "COLLATE" do
    symbol "="
    plainWord
  onCommit
  let _ ← keyword? "STRICT"
  let _ ← after? "COMMENT" do
    let _ ← symbol? "="
    quotedString

def createTable (g : Grammar) : Parser Unit := do
  ifNotExists
  let _ ← g.objectName
  onCluster
  if (← oneOf? ["LIKE", "ILIKE"]).isSome then passNames
  let _ ← after? "CLONE" passNames
  g.columnDefinitions
  g.tableTraits
  let _ ← after? "AS" g.query

/-- A table whose rows are kept elsewhere. -/
def createExternalTable (g : Grammar) : Parser Unit := do
  keyword "TABLE"
  ifNotExists
  let _ ← g.objectName
  g.columnDefinitions
  g.distribution
  g.storage
  g.settings ["TBLPROPERTIES"]

def createView (g : Grammar) : Parser Unit := do
  keyword "VIEW"
  ifNotExists
  let _ ← g.objectName
  if ← symbol? "(" then
    let _ ← commaSeparatedUntil g.steps ")" do
      let _ ← identifier
      g.settings ["OPTIONS"]
    symbol ")"
  g.settings ["WITH"]
  let _ ← after? "CLUSTER" do
    keyword "BY"
    g.columnList?
  g.settings ["OPTIONS"]
  let _ ← after? "TO" g.objectName
  let _ ← after? "COMMENT" do
    symbol "="
    quotedString
  keyword "AS"
  let _ ← g.query
  let _ ← keywords? ["WITH", "NO", "SCHEMA", "BINDING"]

def createIndex (g : Grammar) : Parser Unit := do
  let _ ← keyword? "CONCURRENTLY"
  let isNew ← keywords? ["IF", "NOT", "EXISTS"]
  let isNamed ← if isNew then pure true else (!·) <$> keyword? "ON"
  if isNamed then
    let _ ← g.objectName
    keyword "ON"
  let _ ← g.objectName
  let _ ← after? "USING" identifier
  let _ ← inBrackets (g.commas g.orderKey)
  let _ ← after? "INCLUDE" g.columnList
  let _ ← after? "NULLS" do
    let _ ← keyword? "NOT"
    keyword "DISTINCT"
  let _ ← after? "WHERE" g.expression

def createSequence (g : Grammar) : Parser Unit := do
  ifNotExists
  let _ ← g.objectName
  let _ ← after? "AS" g.typeName
  let _ ← sequenceTraits
  let _ ← afterWords? ["OWNED", "BY"] do
    if !(← keyword? "NONE") then
      let _ ← g.objectName

/-- A change of a column. -/
def alterColumn (g : Grammar) : Parser Unit := do
  let _ ← keyword? "COLUMN"
  let _ ← identifier
  if ← keywords? ["SET", "NOT", "NULL"] then return
  if ← keywords? ["DROP", "NOT", "NULL"] then return
  if ← keywords? ["SET", "DEFAULT"] then
    let _ ← g.expression
    return
  if ← keywords? ["DROP", "DEFAULT"] then return
  if ← keywords? ["SET", "DATA", "TYPE"] then
    let _ ← g.typeName
    return
  keywords ["ADD", "GENERATED"]
  if !(← keyword? "ALWAYS") then
    let _ ← keywords? ["BY", "DEFAULT"]
  keywords ["AS", "IDENTITY"]
  let _ ← identityText

/-- Where a column stands among the others. -/
def columnPlace : Parser Unit := do
  if !(← keyword? "FIRST") then
    let _ ← after? "AFTER" identifier

/-- Something that is added to a table: a constraint, partitions or a column. -/
def addition (g : Grammar) : Parser Unit := do
  if (← g.tableConstraint?).isSome then return
  ifNotExists
  let partitions ← repeated g.steps (after? "PARTITION" g.bracketList)
  if partitions.isEmpty then
    let _ ← keyword? "COLUMN"
    ifNotExists
    g.columnDefinition
    columnPlace

/-- A new name for a table, or for a column of it. -/
def newName (g : Grammar) : Parser Unit := do
  if ← keyword? "TO" then
    let _ ← g.objectName
  else
    let _ ← keyword? "COLUMN"
    let _ ← identifier
    keyword "TO"
    let _ ← identifier

/-- Something that is dropped from a table. -/
def removal (g : Grammar) : Parser Unit := do
  if ← keywords? ["IF", "EXISTS", "PARTITION"] then g.bracketList
  else if ← keyword? "PARTITION" then g.bracketList
  else if ← keywords? ["PRIMARY", "KEY"] then return
  else
    let _ ← oneOf? ["COLUMN", "CONSTRAINT"]
    ifExists
    let _ ← identifier
    let _ ← keyword? "CASCADE"

/-- A rule, a trigger or the security of rows that is put into force, or out of it. -/
def enforcement (ranks : List (List String)) : Parser Unit := do
  if ← keywords? ["ROW", "LEVEL", "SECURITY"] then return
  guard (← ranks.foldlM (fun found rank => if found then pure true else keywords? rank) false)
  let _ ← identifier

/-- The ways to name what is put into force. -/
def enabledRanks : List (List String) := [
  ["ALWAYS", "RULE"], ["ALWAYS", "TRIGGER"], ["REPLICA", "RULE"], ["REPLICA", "TRIGGER"], ["RULE"],
  ["TRIGGER"]]

/-- A new type and new traits of a column. -/
def columnChange (g : Grammar) : Parser Unit := do
  let _ ← g.typeName
  let _ ← repeated g.steps g.columnTrait?
  columnPlace

/-- A part of a table, or a partition of it. -/
def partReference (g : Grammar) : Parser Unit := do
  let _ ← oneOf ["PART", "PARTITION"]
  let _ ← g.expression

/-- A change that one of the words leads. -/
def alterationBy (g : Grammar) (word : String) : Parser Unit := do
  match word with
  | "ADD" => g.addition
  | "RENAME" => g.newName
  | "DISABLE" => enforcement [["RULE"], ["TRIGGER"]]
  | "ENABLE" => enforcement enabledRanks
  | "DROP" => g.removal
  | "PARTITION" =>
    g.bracketList
    keywords ["RENAME", "TO", "PARTITION"]
    g.bracketList
  | "CHANGE" =>
    let _ ← keyword? "COLUMN"
    let _ ← identifier
    let _ ← identifier
    g.columnChange
  | "MODIFY" =>
    let _ ← keyword? "COLUMN"
    let _ ← identifier
    g.columnChange
  | "ALTER" => g.alterColumn
  | "SWAP" =>
    keyword "WITH"
    let _ ← g.objectName
  | "ATTACH" => g.partReference
  | "DETACH" => g.partReference
  | "OWNER" =>
    keyword "TO"
    let _ ← identifier
  | "SET" =>
    keyword "TBLPROPERTIES"
    let _ ← g.settingList
  | _ =>
    g.partReference
    let _ ← after? "WITH" do
      keyword "NAME"
      identifier

def alteration (g : Grammar) : Parser Unit := do
  g.alterationBy (← oneOf [
    "ADD", "RENAME", "DISABLE", "ENABLE", "DROP", "PARTITION", "CHANGE", "MODIFY", "ALTER", "SWAP",
    "ATTACH", "DETACH", "OWNER", "SET", "FREEZE", "UNFREEZE"])

def alterTable (g : Grammar) : Parser Unit := do
  ifExists
  let _ ← keyword? "ONLY"
  let _ ← g.objectName
  onCluster
  let _ ← g.commas g.alteration
  if ← either (keyword? "LOCATION") (keywords? ["SET", "LOCATION"]) then
    let _ ← identifier

def alter (g : Grammar) : Parser Unit := do
  match ← oneOf ["TABLE", "INDEX", "VIEW"] with
  | "TABLE" => g.alterTable
  | "INDEX" =>
    let _ ← g.objectName
    keywords ["RENAME", "TO"]
    let _ ← g.objectName
  | _ =>
    let _ ← g.objectName
    let _ ← g.columnList?
    g.settings ["WITH"]
    keyword "AS"
    let _ ← g.query

end SearchSql.Sql.Grammar
