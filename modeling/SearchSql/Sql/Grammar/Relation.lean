import SearchSql.Sql.Grammar.RowPattern

/-!
# Relations

What rows are taken from: a table by its name, the rows of a query or a call, several of them
joined. A table in brackets is the table itself, and a label behind the brackets is its label.
-/

namespace SearchSql.Sql

open SearchSql.Sql.Parser

namespace Grammar

/-- Settings with their values. -/
def settingsText? (g : Grammar) : Parser (Option String) :=
  after? "SETTINGS" do
    let settings ← g.commas do
      let name ← identifier
      symbol "="
      return name.text ++ " = " ++ (← literal).text
    return "SETTINGS " ++ commaText settings

/-- The arguments of a table, after the opening bracket and with the closing one. -/
def tableArguments (g : Grammar) : Parser String := do
  if ← symbol? ")" then return "()"
  let rec arguments : Nat → Parser (List String)
    | 0 => failure
    | steps + 1 => do
      match ← g.settingsText? with
      | some settings => return [settings]
      | none =>
        let first ← g.argument
        if ← symbol? "," then return first.text :: (← arguments steps) else return [first.text]
  let texts ← arguments g.steps
  symbol ")"
  return "(" ++ commaText texts ++ ")"

/-- The rows that VALUES lists. -/
def valuesText (g : Grammar) : Parser String := do
  let rows ← g.commas do
    let isRow ← keyword? "ROW"
    return (isRow, ← inBrackets g.expressionsText)
  let lead := if rows.any (·.1) then "ROW(" else "("
  return "VALUES " ++ commaText (rows.map fun row => lead ++ row.2 ++ ")")

/-- The rows of a query, after the opening bracket. -/
def derivedRelation (g : Grammar) (lead : String) : Parser Relation := do
  let query ← g.query
  symbol ")"
  return { before := lead ++ "(" ++ query.text ++ ")", label := ← g.tableLabel? }

def lateralRelation (g : Grammar) : Parser Relation := do
  if ← symbol? "(" then g.derivedRelation "LATERAL "
  else
    let name ← g.objectNameText
    symbol "("
    let list ← commaSeparatedUntil g.steps ")" g.argument
    symbol ")"
    return {
      before := "LATERAL " ++ name ++ "(" ++ commaText (list.map Expr.text) ++ ")"
      label := ← g.tableLabel? }

/-- The values of an array as rows. WITH behind the label is taken even without OFFSET behind it. -/
def unnestRelation (g : Grammar) : Parser Relation := do
  let items ← inBrackets g.expressionsText
  let ordinality ← keywords? ["WITH", "ORDINALITY"]
  let label ← g.tableLabel?
  let offset ← do
    if ← keyword? "WITH" then
      if ← keyword? "OFFSET" then
        let label ← label? Keyword.endsColumn
        pure (" WITH OFFSET" ++ optionText (clauseText "AS") (label.map Identifier.text))
      else pure ""
    else pure ""
  return {
    before := "UNNEST(" ++ items ++ ")" ++ (if ordinality then " WITH ORDINALITY" else "")
    label
    after := offset }

/-- What a column holds where its path finds nothing or fails, with the word for that case. -/
def jsonFallback? : Parser (Option (String × String)) := do
  let value ← match ← oneOf? ["NULL", "ERROR", "DEFAULT"] with
    | none => return none
    | some "DEFAULT" => pure ("DEFAULT " ++ (← literal).text)
    | some word => pure word
  keyword "ON"
  return some (← oneOf ["EMPTY", "ERROR"], value)

/-- A column of a table that is made of a JSON text. The last word on each case counts. -/
def jsonColumn (g : Grammar) : Parser String := do
  let name ← identifier
  let type ← g.typeName
  let tests ← keyword? "EXISTS"
  keyword "PATH"
  let path ← literal
  let fallbacks ← repeated g.steps jsonFallback?
  let fallback (event : String) : String :=
    optionText (fun value => " " ++ value ++ " ON " ++ event)
      ((fallbacks.reverse.find? fun found => found.1 == event).map (·.2))
  return name.text ++ " " ++ type.text ++ (if tests then " EXISTS" else "") ++ " PATH " ++
    path.text ++ fallback "EMPTY" ++ fallback "ERROR"

def jsonRelation (g : Grammar) : Parser Relation := do
  symbol "("
  let value ← g.expressionText
  symbol ","
  let path ← literal
  keyword "COLUMNS"
  let columns ← inBrackets (g.commas g.jsonColumn)
  symbol ")"
  return {
    before :=
      "JSON_TABLE(" ++ value ++ ", " ++ path.text ++ " COLUMNS(" ++ commaText columns ++ "))"
    label := ← g.tableLabel? }

/-- A call whose rows are turned into columns. -/
def pivotCall (g : Grammar) : Parser String := do
  match (← next).name? with
  | none => failure
  | some name =>
    let call ← g.call g.interval [⟨name.value, none⟩]
    let label ← after? "AS" identifier
    return call.text ++ optionText (clauseText "AS") (label.map Identifier.text)

def pivotValues (g : Grammar) : Parser String := do
  if ← keyword? "ANY" then
    return "ANY" ++ optionText (" " ++ ·) (← g.orderText?)
  else if ((← peekKeyword).map ["SELECT", "WITH"].contains).getD false then
    return (← g.query).text
  else
    return commaText <| ← g.commas do
      let value ← g.expressionText
      let label ← after? "AS" identifier
      return value ++ optionText (clauseText "AS") (label.map Identifier.text)

/-- A relation whose rows are turned into columns or the other way round, if it is to be so. -/
def turned? (g : Grammar) (relation : Relation) : Parser (Option Relation) := do
  match ← oneOf? ["PIVOT", "UNPIVOT"] with
  | none => return none
  | some "PIVOT" =>
    symbol "("
    let calls ← g.commas g.pivotCall
    keyword "FOR"
    let column ← g.objectNameText
    keyword "IN"
    let values ← inBrackets g.pivotValues
    let default ← afterWords? ["DEFAULT", "ON", "NULL"] (inBrackets g.expressionText)
    symbol ")"
    return some {
      before := relation.text ++ " PIVOT(" ++ commaText calls ++ " FOR " ++ column ++ " IN (" ++
        values ++ ")" ++ optionText (fun text => " DEFAULT ON NULL (" ++ text ++ ")") default ++ ")"
      label := ← g.tableLabel? }
  | some _ =>
    symbol "("
    let value ← identifier
    keyword "FOR"
    let name ← identifier
    keyword "IN"
    let columns ← g.columnList
    symbol ")"
    return some {
      before := relation.text ++ " UNPIVOT(" ++ value.text ++ " FOR " ++ name.text ++ " IN (" ++
        columns ++ "))"
      label := ← g.tableLabel? }

/-- The relation after all its turns. -/
def turnedRelation (g : Grammar) (steps : Nat) (relation : Relation) : Parser Relation :=
  match steps with
  | 0 => failure
  | steps + 1 => do
    match ← g.turned? relation with
    | some turned => g.turnedRelation steps turned
    | none => return relation

/-- A table by its name. -/
def tableRelation (g : Grammar) : Parser Relation := do
  let name ← g.objectName
  let partitions ← after? "PARTITION" g.columnList
  let arguments ← if ← symbol? "(" then g.tableArguments else pure ""
  let ordinality ← keywords? ["WITH", "ORDINALITY"]
  let label ← g.tableLabel?
  let hints ← attempt do
    keyword "WITH"
    symbol "("
  let hints ← if hints.isSome then
      let hints ← g.expressionsText
      symbol ")"
      pure (" WITH (" ++ hints ++ ")")
    else pure ""
  let relation ← g.turnedRelation g.steps {
    table := some name
    before := Identifier.pathText name ++
      optionText (fun names => "PARTITION (" ++ names ++ ")") partitions ++ arguments ++
      (if ordinality then " WITH ORDINALITY" else "")
    label
    after := hints }
  if ← keyword? "MATCH_RECOGNIZE" then g.matchedRows relation else return relation

/-- Whether the word comes next, with an opening bracket behind it. -/
def nextIsCall (word : String) : Parser Bool := do
  return (← peekKeyword) == some word && (← peekAt 1) == some (.symbol "(")

/-- How two relations are joined: the words between them, and whether a condition may follow. -/
structure JoinKind where
  words : String
  natural : Bool := false
  conditional : Bool := true
  asOf : Bool := false

/-- The words that join a further relation, if one is joined. -/
def joinKind? : Parser (Option JoinKind) := do
  if ← keyword? "CROSS" then
    match ← oneOf ["JOIN", "APPLY"] with
    | "JOIN" => return some ⟨"CROSS JOIN", false, false, false⟩
    | _ => return some ⟨"CROSS APPLY", false, false, false⟩
  else if ← keyword? "OUTER" then
    keyword "APPLY"
    return some ⟨"OUTER APPLY", false, false, false⟩
  else if ← keyword? "ASOF" then
    keyword "JOIN"
    return some ⟨"ASOF JOIN", false, true, true⟩
  else
    let natural ← keyword? "NATURAL"
    let kind (words : String) : Option JoinKind :=
      some ⟨wordIf natural "NATURAL" ++ words, natural, true, false⟩
    match ← peekKeyword with
    | some "INNER" =>
      keyword "INNER"
      keyword "JOIN"
      return kind "JOIN"
    | some "JOIN" =>
      keyword "JOIN"
      return kind "JOIN"
    | some "FULL" =>
      keyword "FULL"
      let _ ← keyword? "OUTER"
      keyword "JOIN"
      return kind "FULL JOIN"
    | _ =>
      match ← oneOf? ["LEFT", "RIGHT"] with
      | some side =>
        match ← oneOf ["OUTER", "SEMI", "ANTI", "JOIN"] with
        | "JOIN" => return kind (side ++ " JOIN")
        | "OUTER" =>
          keyword "JOIN"
          return kind (side ++ " JOIN")
        | half =>
          keyword "JOIN"
          return kind (side ++ " " ++ half ++ " JOIN")
      | none =>
        guard !natural
        return none

/-- The condition that joins a relation to those before it. -/
def joinCondition (g : Grammar) : Parser String := do
  if ← keyword? "ON" then return " ON " ++ (← g.expressionText)
  else if ← keyword? "USING" then return " USING(" ++ (← g.columnList) ++ ")"
  else return ""

/-- A further relation with the words that join it, if one is joined. -/
def join? (g : Grammar) (relation : Parser Relation) : Parser (Option String) := do
  let isGlobal ← keyword? "GLOBAL"
  match ← joinKind? with
  | none => return none
  | some kind =>
    let joined ← relation
    let matching ← if kind.asOf then
        keyword "MATCH_CONDITION"
        pure (" MATCH_CONDITION (" ++ (← inBrackets g.expressionText) ++ ")")
      else pure ""
    let condition ← if kind.conditional && !kind.natural then g.joinCondition else pure ""
    return some ((if isGlobal then " GLOBAL " else " ") ++ kind.words ++ " " ++ joined.text ++
      matching ++ condition)

def joinedRelation (g : Grammar) (relation : Parser Relation) : Parser JoinedRelation := do
  let first ← relation
  let joins ← repeated g.steps (g.join? relation)
  return ⟨first, joins⟩

/-- What stands in brackets, after the opening bracket: the rows of a query, or relations. -/
def bracketRelation (g : Grammar) (relation : Parser Relation) : Parser Relation := do
  match ← attempt (g.derivedRelation "") with
  | some derived => g.turnedRelation g.steps derived
  | none =>
    let inner ← g.joinedRelation relation
    symbol ")"
    let label ← g.tableLabel?
    if !inner.joins.isEmpty || inner.relation.isJoin then
      return { isJoin := true, before := "(" ++ inner.text ++ ")", label }
    else
      guard (label.isNone || inner.relation.label.isNone)
      return { inner.relation with label := label.or inner.relation.label }

/-- A relation within at most so many brackets. -/
def relationWithin (g : Grammar) : Nat → Parser Relation
  | 0 => failure
  | depth + 1 => do
    if ← keyword? "LATERAL" then g.lateralRelation
    else if ← keyword? "TABLE" then
      let value ← inBrackets g.expressionText
      return { before := "TABLE(" ++ value ++ ")", label := ← g.tableLabel? }
    else if ← symbol? "(" then g.bracketRelation (g.relationWithin depth)
    else if ← nextIsCall "VALUES" then
      keyword "VALUES"
      let values ← g.valuesText
      return { before := "(" ++ values ++ ")", label := ← g.tableLabel? }
    else if ← keyword? "UNNEST" then g.unnestRelation
    else if ← nextIsCall "JSON_TABLE" then
      keyword "JSON_TABLE"
      g.jsonRelation
    else g.tableRelation

def relation (g : Grammar) : Parser Relation := g.relationWithin g.steps

/-- A relation with all that is joined to it. -/
def table (g : Grammar) : Parser JoinedRelation := g.joinedRelation g.relation

def tables (g : Grammar) : Parser (List JoinedRelation) := g.commas g.table

end Grammar

end SearchSql.Sql
