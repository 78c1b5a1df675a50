import SearchSql.Sql.Grammar.Relation

/-!
# Queries

The clauses of SELECT, the set operations between queries, and what may stand around a query:
common tables before it, and order, limit and locks behind it.
-/

namespace SearchSql.Sql

open SearchSql.Sql.Parser

/-- What a clause adds to the text of its statement. -/
def clauseOf (keyword : String) (text : Option String) : String :=
  optionText (clauseText keyword) text

namespace Grammar

def distinctText (g : Grammar) : Parser String := do
  let all ← keyword? "ALL"
  if ← keyword? "DISTINCT" then
    guard !all
    if ← keyword? "ON" then
      let columns ← inBrackets (commaSeparatedUntil g.steps ")" g.expression)
      return " DISTINCT ON (" ++ commaText (columns.map Expr.text) ++ ")"
    else return " DISTINCT"
  else return ""

/-- A number of rows at the top. -/
def topText (g : Grammar) : Parser String := do
  if ← keyword? "TOP" then
    let quantity ← if ← nextIsSymbol "(" then bracketText <$> inBrackets g.expressionText
      else wholeNumber
    let percent ← keyword? "PERCENT"
    let ties ← keywords? ["WITH", "TIES"]
    return " TOP " ++ quantity ++ (if percent then " PERCENT" else "") ++
      (if ties then " WITH TIES" else "")
  else return ""

def intoText (g : Grammar) : Parser String := do
  if ← keyword? "INTO" then
    let temporary ← oneOf? ["TEMP", "TEMPORARY"]
    let unlogged ← keyword? "UNLOGGED"
    let isTable ← keyword? "TABLE"
    return " INTO" ++ (if temporary.isSome then " TEMPORARY" else "") ++
      (if unlogged then " UNLOGGED" else "") ++ (if isTable then " TABLE" else "") ++ " " ++
      (← g.objectNameText)
  else return ""

def lateralView? (g : Grammar) : Parser (Option String) :=
  afterWords? ["LATERAL", "VIEW"] do
    let outer ← keyword? "OUTER"
    let value ← g.expressionText
    let name ← g.objectNameText
    let labels ← g.commas (label? Keyword.endsLateralColumn)
    let labels := (labels.filterMap id).map Identifier.text
    return " LATERAL VIEW" ++ (if outer then " OUTER " else " ") ++ value ++ " " ++ name ++
      (if labels.isEmpty then "" else " AS " ++ commaText labels)

/-- Expressions in brackets or a single one without them. -/
def liftedTuple (g : Grammar) : Parser (List Expr) := do
  if ← nextIsSymbol "(" then inBrackets (commaSeparatedUntil g.steps ")" g.expression)
  else return [← g.expression]

def liftedText (items : List Expr) : String :=
  match items with
  | [single] => single.text
  | items => bracketText (commaText (items.map Expr.text))

def groupTerm (g : Grammar) : Parser Expr := do
  if ← keywords? ["GROUPING", "SETS"] then
    let sets ← inBrackets <| g.commas <| inBrackets <|
      commaSeparatedUntil g.steps ")" g.expression
    let texts := sets.map fun items => bracketText (commaText (items.map Expr.text))
    return .phrase ("GROUPING SETS (" ++ commaText texts ++ ")")
  match ← oneOf? ["CUBE", "ROLLUP"] with
  | some word =>
    let sets ← inBrackets (g.commas g.liftedTuple)
    return .phrase (word ++ " (" ++ commaText (sets.map liftedText) ++ ")")
  | none =>
    match ← attempt (do symbol "("; symbol ")") with
    | some _ => return .phrase "()"
    | none => g.expression

/-- The terms of GROUP BY with their text; GROUP BY ALL has none. -/
def groupClause (g : Grammar) : Parser (List Expr × String) := do
  if ← keywords? ["GROUP", "BY"] then
    let terms ← if ← keyword? "ALL" then pure none else some <$> g.commas g.groupTerm
    let modifiers ← repeated g.steps do
      if ← keyword? "WITH" then
        return some (" WITH " ++ (← oneOf ["ROLLUP", "CUBE", "TOTALS"]))
      else return none
    let text := match terms with
      | none => "ALL"
      | some terms => commaText (terms.map Expr.text)
    return (terms.getD [], " GROUP BY " ++ text ++ String.join modifiers)
  else return ([], "")

/-- Windows with names and the rows that they leave, in either order. -/
def windowText (g : Grammar) : Parser String := do
  let windows? : Parser (Option String) :=
    after? "WINDOW" do return commaText (← g.commas (g.namedWindow g.interval))
  match ← windows? with
  | some windows =>
    return clauseText "WINDOW" windows ++ clauseOf "QUALIFY" (← after? "QUALIFY" g.expressionText)
  | none =>
    match ← after? "QUALIFY" g.expressionText with
    | some qualify => return clauseText "QUALIFY" qualify ++ clauseOf "WINDOW" (← windows?)
    | none => return ""

/-- The rows that a hierarchy starts with and how the others follow from them, in either order. -/
def hierarchyText (g : Grammar) : Parser String := do
  let related : Parser String := do
    return commaText ((← g.commas g.relatedExpression).map Expr.text)
  if ← keyword? "START" then
    keyword "WITH"
    let start ← g.expressionText
    keywords ["CONNECT", "BY"]
    return " START WITH " ++ start ++ " CONNECT BY " ++ (← related)
  else if ← keyword? "CONNECT" then
    keyword "BY"
    let relation ← related
    keywords ["START", "WITH"]
    return " START WITH " ++ (← g.expressionText) ++ " CONNECT BY " ++ relation
  else return ""

/-- A SELECT, after its keyword. -/
def selectBody (g : Grammar) : Parser SelectBody := do
  let distinct ← g.distinctText
  let top ← g.topText
  let terms ← g.commas g.selectTerm
  let into ← g.intoText
  let tables ← after? "FROM" g.tables
  let views ← repeated g.steps g.lateralView?
  let before ← after? "PREWHERE" g.expressionText
  let predicate ← after? "WHERE" g.expression
  let (group, groupText) ← g.groupClause
  let cluster ← afterWords? ["CLUSTER", "BY"] g.expressionsText
  let distribute ← afterWords? ["DISTRIBUTE", "BY"] g.expressionsText
  let sort ← afterWords? ["SORT", "BY"] g.expressionsText
  let having ← after? "HAVING" g.expressionText
  let windows ← g.windowText
  let hierarchy ← g.hierarchyText
  return {
    terms
    tables := tables.getD []
    predicate
    group
    hasHaving := having.isSome
    text := "SELECT" ++ distinct ++ top ++ " " ++ commaText (terms.map SelectTerm.text) ++ into ++
      clauseOf "FROM" (tables.map fun tables => commaText (tables.map JoinedRelation.text)) ++
      String.join views ++ clauseOf "PREWHERE" before ++
      clauseOf "WHERE" (predicate.map Expr.text) ++ groupText ++ clauseOf "CLUSTER BY" cluster ++
      clauseOf "DISTRIBUTE BY" distribute ++ clauseOf "SORT BY" sort ++ clauseOf "HAVING" having ++
      windows ++ hierarchy }

/-- The rows of a table by its name alone. What follows the name is passed over with it. -/
def tableRows : Parser String := do
  let first ← next
  let second ← attempt next
  let third ← attempt next
  match first.name?, second with
  | some name, some (.symbol ".") =>
    match third.bind Token.name? with
    | some table => return "TABLE " ++ name.value ++ "." ++ table.value
    | none => failure
  | some name, _ => return "TABLE " ++ name.value
  | none, _ => failure

/-- A query or a part of one. It is a body only as a SELECT without brackets. -/
structure QueryPart where
  body : Option SelectBody
  text : String

def simplePart (g : Grammar) : Parser QueryPart := do
  if ← keyword? "SELECT" then
    let body ← g.selectBody
    return ⟨some body, body.text⟩
  else if ← symbol? "(" then
    let query ← g.query
    symbol ")"
    return ⟨none, "(" ++ query.text ++ ")"⟩
  else if ← keyword? "VALUES" then return ⟨none, ← g.valuesText⟩
  else
    keyword "TABLE"
    return ⟨none, ← tableRows⟩

/-- What may stand behind the name of a set operation. -/
def setQuantifier : Parser String := do
  if ← keywords? ["DISTINCT", "BY", "NAME"] then return " DISTINCT BY NAME"
  if ← keywords? ["BY", "NAME"] then return " BY NAME"
  if ← keywords? ["ALL", "BY", "NAME"] then return " ALL BY NAME"
  return optionText (" " ++ ·) (← oneOf? ["ALL", "DISTINCT"])

def joinParts (left right : QueryPart) (op quantifier : String) : QueryPart :=
  ⟨none, left.text ++ " " ++ op ++ quantifier ++ " " ++ right.text⟩

/-- Parts with INTERSECT between them. -/
def intersections (g : Grammar) (steps : Nat) (left : QueryPart) : Parser QueryPart :=
  match steps with
  | 0 => failure
  | steps + 1 => do
    if ← keyword? "INTERSECT" then
      let quantifier ← setQuantifier
      let right ← g.simplePart
      g.intersections steps (joinParts left right "INTERSECT" quantifier)
    else return left

/-- Parts with set operations between them, of which INTERSECT binds most strongly. -/
def setOperations (g : Grammar) (steps : Nat) (left : QueryPart) : Parser QueryPart :=
  match steps with
  | 0 => failure
  | steps + 1 => do
    match ← oneOf? ["UNION", "EXCEPT"] with
    | some op =>
      let quantifier ← setQuantifier
      let right ← g.intersections g.steps (← g.simplePart)
      g.setOperations steps (joinParts left right op quantifier)
    | none => return left

def queryBody (g : Grammar) : Parser QueryPart := do
  let first ← g.intersections g.steps (← g.simplePart)
  g.setOperations g.steps first

/-- A common table, before the query that uses it. -/
def commonTable (g : Grammar) : Parser String := do
  let name ← identifier
  let columns ← g.columnList?
  keyword "AS"
  let query ← inBrackets g.query
  let source ← after? "FROM" identifier
  return name.text ++ optionText (fun columns => " (" ++ columns ++ ")") columns ++ " AS (" ++
    query.text ++ ")" ++ clauseOf "FROM" (source.map Identifier.text)

def withText (g : Grammar) : Parser String := do
  if ← keyword? "WITH" then
    let recursive ← keyword? "RECURSIVE"
    return "WITH " ++ wordIf recursive "RECURSIVE" ++ commaText (← g.commas g.commonTable) ++ " "
  else return ""

/-- Values that fill the gaps of an order. -/
def interpolateText (g : Grammar) : Parser String := do
  if ← keyword? "INTERPOLATE" then
    if ← nextIsSymbol "(" then
      let items ← inBrackets <| commaSeparatedUntil g.steps ")" do
        let name ← identifier
        return name.text ++ clauseOf "AS" (← after? "AS" g.expressionText)
      return " INTERPOLATE (" ++ commaText items ++ ")"
    else return " INTERPOLATE"
  else return ""

/-- The bounds of the rows: a limit, and an offset with its text. -/
structure Bounds where
  limit : Option Expr := none
  offset : Option String := none

/-- A limit or an offset or both; two limits with a comma between them are an offset and a limit. -/
def moreBounds (g : Grammar) (bounds : Bounds) : Parser Bounds := do
  let limit ← match bounds.limit with
    | some limit => pure (some limit)
    | none =>
      if ← keyword? "LIMIT" then
        if ← keyword? "ALL" then pure none else some <$> g.expression
      else pure none
  let offset ← match bounds.offset with
    | some offset => pure (some offset)
    | none => after? "OFFSET" do
      let value ← g.expressionText
      return " OFFSET " ++ value ++ optionText (" " ++ ·) (← oneOf? ["ROW", "ROWS"])
  match limit, offset with
  | some first, none =>
    if ← symbol? "," then
      return { limit := some (← g.expression), offset := some (" OFFSET " ++ first.text) }
    else return { limit, offset }
  | _, _ => return { limit, offset }

/-- The number of rows to fetch. -/
def fetchText : Parser String := do
  if ← keyword? "FETCH" then
    let _ ← oneOf ["FIRST", "NEXT"]
    let quantity ← match ← oneOf? ["ROW", "ROWS"] with
      | some _ => pure ""
      | none => do
        let quantity ← literal
        let percent ← keyword? "PERCENT"
        let _ ← oneOf ["ROW", "ROWS"]
        pure (" " ++ quantity.text ++ (if percent then " PERCENT" else ""))
    let ending ← if ← keyword? "ONLY" then pure "ONLY" else
      keywords ["WITH", "TIES"]
      pure "WITH TIES"
    return " FETCH FIRST" ++ quantity ++ " ROWS " ++ ending
  else return ""

/-- A string in brackets, as the option of an output format. -/
def rootText : Parser String := inBrackets literalString

/-- The output formats of FOR, with their options in the order in which they are written out. -/
def outputText (steps : Nat) : Parser (Option String) := do
  let options (words : List String) (read : String → Parser String) :
      Parser (List (String × String)) := repeated steps do
    if ← symbol? "," then
      match ← oneOf? words with
      | some word => return some (word, ← read word)
      | none => return some ("", "")
    else return none
  let written (words : List String) (chosen : List (String × String)) : String :=
    String.join <| words.map fun word =>
      ((chosen.reverse.find? fun option => option.1 == word).map (·.2)).getD ""
  let named (word : String) : Parser String := do
    if ← nextIsSymbol "(" then return word ++ "(" ++ enclosed '\'' (← rootText) ++ ")"
    else return word
  let root : Parser String := do return ", ROOT(" ++ enclosed '\'' (← rootText) ++ ")"
  if ← keyword? "XML" then
    let form ← match ← oneOf ["RAW", "AUTO", "EXPLICIT", "PATH"] with
      | "RAW" => named "RAW"
      | "PATH" => named "PATH"
      | word => pure word
    let chosen ← options ["ELEMENTS", "BINARY", "ROOT", "TYPE"] fun
      | "BINARY" => do
        keyword "BASE64"
        pure ", BINARY BASE64"
      | "ROOT" => root
      | word => pure (", " ++ word)
    return some ("FOR XML " ++ form ++ written ["BINARY", "TYPE", "ROOT", "ELEMENTS"] chosen)
  else if ← keyword? "JSON" then
    let form ← oneOf ["AUTO", "PATH"]
    let chosen ← options ["ROOT", "INCLUDE_NULL_VALUES", "WITHOUT_ARRAY_WRAPPER"] fun
      | "ROOT" => root
      | word => pure (", " ++ word)
    return some ("FOR JSON " ++ form ++
      written ["ROOT", "INCLUDE_NULL_VALUES", "WITHOUT_ARRAY_WRAPPER"] chosen)
  else if ← keyword? "BROWSE" then return some "FOR BROWSE"
  else return none

def lockText (g : Grammar) : Parser String := do
  let kind ← oneOf ["UPDATE", "SHARE"]
  let name ← after? "OF" g.objectNameText
  let blocked ← if ← keyword? "NOWAIT" then pure " NOWAIT"
    else if ← keywords? ["SKIP", "LOCKED"] then pure " SKIP LOCKED"
    else pure ""
  return " FOR " ++ kind ++ clauseOf "OF" name ++ blocked

/-- Locks on the rows, and then perhaps an output format. -/
def forClauses (g : Grammar) (steps : Nat) : Parser (List String) :=
  match steps with
  | 0 => failure
  | steps + 1 => do
    if ← keyword? "FOR" then
      match ← outputText g.steps with
      | some output => return [" " ++ output]
      | none =>
        let lock ← g.lockText
        return lock :: (← g.forClauses steps)
    else return []

def formatText : Parser String := do
  if ← keyword? "FORMAT" then
    if ← keyword? "NULL" then return " FORMAT NULL"
    else return " FORMAT " ++ (← identifier).text
  else return ""

/-- A query with all that stands behind its body. -/
def boundedQuery (g : Grammar) (lead : String) : Parser SelectQuery := do
  let part ← g.queryBody
  let order ← afterWords? ["ORDER", "BY"] g.orderKeys
  let filling ← if order.isSome then g.interpolateText else pure ""
  let bounds ← g.moreBounds {}
  let bounds ← g.moreBounds bounds
  let limitBy ← after? "BY" g.expressionsText
  let settings ← g.settingsText?
  let fetch ← fetchText
  let forClauses ← g.forClauses g.steps
  let format ← formatText
  return {
    body := part.body
    order := order.getD []
    limit := bounds.limit
    text := lead ++ part.text ++ optionText (" " ++ ·) (order.map orderText) ++ filling ++
      clauseOf "LIMIT" (bounds.limit.map Expr.text) ++ bounds.offset.getD "" ++
      clauseOf "BY" limitBy ++ optionText (" " ++ ·) settings ++ fetch ++ String.join forClauses ++
      format }

end Grammar

end SearchSql.Sql
