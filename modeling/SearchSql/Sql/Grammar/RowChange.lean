import SearchSql.Sql.Grammar.Query
import SearchSql.Sql.Grammar.Storage

/-!
# Changes of rows

Putting rows into a table or a directory, and changing rows of a table. Either may stand where a
query is asked for, so their normal text is kept.
-/

namespace SearchSql.Sql

open SearchSql.Sql.Parser

namespace Grammar

/-- A column or several columns in brackets, with the value that they take. -/
def assignmentText (g : Grammar) : Parser String := do
  let target ← if ← nextIsSymbol "(" then
      bracketText <$> inBrackets do return commaText (← g.commas g.objectNameText)
    else g.objectNameText
  symbol "="
  return target ++ " = " ++ (← g.expressionText)

def assignmentsText (g : Grammar) : Parser String := do
  return commaText (← g.commas g.assignmentText)

/-- What is given back of the changed rows. -/
def returningText (g : Grammar) : Parser String := do
  return clauseOf "RETURNING" (← after? "RETURNING" do
    return commaText ((← g.commas g.selectTerm).map SelectTerm.text))

def whereText (g : Grammar) : Parser String := do
  return clauseOf "WHERE" (← after? "WHERE" g.expressionText)

/-- The rows that conflict, by their columns or by the constraint, if that is said. -/
def conflictTarget (g : Grammar) : Parser String := do
  if ← keywords? ["ON", "CONSTRAINT"] then return " ON CONSTRAINT " ++ (← g.objectNameText)
  else return optionText bracketText (← g.columnList?)

/-- What to do with a row that is there already. -/
def conflictText (g : Grammar) : Parser String := do
  if ← keyword? "CONFLICT" then
    let target ← g.conflictTarget
    keyword "DO"
    if ← keyword? "NOTHING" then return " ON CONFLICT" ++ target ++ " DO NOTHING"
    keywords ["UPDATE", "SET"]
    let assignments ← g.assignmentsText
    return " ON CONFLICT" ++ target ++ " DO UPDATE SET " ++ assignments ++ (← g.whereText)
  else
    keywords ["DUPLICATE", "KEY", "UPDATE"]
    return " ON DUPLICATE KEY UPDATE " ++ (← g.assignmentsText)

/-- The rows of a query put into a directory, after its keyword. -/
def directoryText (g : Grammar) (lead : String) : Parser String := do
  let path ← literalString
  let format ← afterWords? ["STORED", "AS"] fileFormat
  let query ← g.query
  return lead ++ " DIRECTORY " ++ enclosed '\'' path ++ clauseOf "STORED AS" format ++ " " ++
    query.text

/-- The rows put into a table, with the columns that they fill. -/
def insertedRows (g : Grammar) : Parser String := do
  if ← keywords? ["DEFAULT", "VALUES"] then return "DEFAULT VALUES"
  let columns ← g.columnList?
  let partitions ← after? "PARTITION" (inBrackets g.expressionsText)
  let query ← g.query
  return optionText (fun columns => bracketText columns ++ " ") columns ++
    optionText (fun partitions => "PARTITION " ++ bracketText partitions ++ " ") partitions ++
    query.text

/-- A name for the new row, with names for its columns. -/
def rowLabelText (g : Grammar) : Parser String := do
  let label ← after? "AS" do
    let name ← g.objectNameText
    return name ++ optionText (fun columns => " " ++ bracketText columns) (← g.columnList?)
  return clauseOf "AS" label

/-- An insertion, after its keyword. -/
def insertion (g : Grammar) : Parser String := do
  let priority ← oneOf? ["LOW_PRIORITY", "DELAYED", "HIGH_PRIORITY"]
  let ignore ← keyword? "IGNORE"
  let action ← oneOf? ["INTO", "OVERWRITE"]
  let isLocal ← keyword? "LOCAL"
  if ← keyword? "DIRECTORY" then
    let overwrite := if action = some "OVERWRITE" then " OVERWRITE" else ""
    g.directoryText ("INSERT" ++ overwrite ++ if isLocal then " LOCAL" else "")
  else
    let isTable ← keyword? "TABLE"
    let name ← g.objectNameText
    let rows ← g.insertedRows
    let label ← g.rowLabelText
    let conflict ← if ← keyword? "ON" then g.conflictText else pure ""
    return "INSERT" ++ optionText (" " ++ ·) priority ++ (if ignore then " IGNORE" else "") ++
      optionText (" " ++ ·) action ++ (if isTable then " TABLE " else " ") ++ name ++ " " ++ rows ++
      label ++ conflict ++ (← g.returningText)

/-- An update, after its keyword. -/
def update (g : Grammar) : Parser String := do
  let table ← g.table
  keyword "SET"
  let assignments ← g.assignmentsText
  let source ← after? "FROM" g.table
  let condition ← g.whereText
  return "UPDATE " ++ table.text ++ " SET " ++ assignments ++
    clauseOf "FROM" (source.map JoinedRelation.text) ++ condition ++ (← g.returningText)

end Grammar

end SearchSql.Sql
