import SearchSql.Sql.Grammar.Basic

/-!
# Orders and windows

The terms of ORDER BY, wherever it may stand, and the windows that a call is evaluated over.
-/

namespace SearchSql.Sql.Grammar

open SearchSql.Sql.Parser

/-- How the gaps of an order are filled. -/
def fillText (g : Grammar) : Parser String := do
  if ← keywords? ["WITH", "FILL"] then
    let part (word : String) : Parser String := do
      return optionText (clauseText word) (← after? word g.expressionText)
    let first ← part "FROM"
    let last ← part "TO"
    return " WITH FILL" ++ first ++ last ++ (← part "STEP")
  else return ""

def orderKey (g : Grammar) : Parser OrderKey := do
  let expr ← g.expression
  let direction ← oneOf? ["ASC", "DESC"]
  let nulls ← if ← keywords? ["NULLS", "FIRST"] then pure " NULLS FIRST"
    else if ← keywords? ["NULLS", "LAST"] then pure " NULLS LAST"
    else pure ""
  let fill ← g.fillText
  return {
    expr
    ascending := direction != some "DESC"
    text := expr.text ++ optionText (" " ++ ·) direction ++ nulls ++ fill }

def orderKeys (g : Grammar) : Parser (List OrderKey) := g.commas g.orderKey

def orderText (keys : List OrderKey) : String :=
  "ORDER BY " ++ commaText (keys.map OrderKey.text)

def orderText? (g : Grammar) : Parser (Option String) := do
  return (← afterWords? ["ORDER", "BY"] g.orderKeys).map orderText

/-- One end of the frame of a window. An interval needs no word in front of its string. -/
def frameBound (g : Grammar) (interval : Parser Expr) : Parser String := do
  if ← keywords? ["CURRENT", "ROW"] then return "CURRENT ROW"
  let distance ← if ← keyword? "UNBOUNDED" then pure "UNBOUNDED" else
    match ← peek with
    | some (.string _) => Expr.text <$> interval
    | _ => g.expressionText
  return distance ++ " " ++ (← oneOf ["PRECEDING", "FOLLOWING"])

def frame (g : Grammar) (interval : Parser Expr) : Parser String := do
  let units ← oneOf ["ROWS", "RANGE", "GROUPS"]
  if ← keyword? "BETWEEN" then
    let first ← g.frameBound interval
    keyword "AND"
    return units ++ " BETWEEN " ++ first ++ " AND " ++ (← g.frameBound interval)
  else return units ++ " " ++ (← g.frameBound interval)

/-- A window, after its opening bracket and with its closing one. -/
def windowSpec (g : Grammar) (interval : Parser Expr) : Parser String := do
  let base ← match ← peek with
    | some token =>
      if token.isPlainName then some <$> Identifier.text <$> identifier else pure none
    | none => pure none
  let partition ← afterWords? ["PARTITION", "BY"] do return "PARTITION BY " ++ (← g.expressionsText)
  let order ← g.orderText?
  if ← symbol? ")" then
    return " ".intercalate ([base, partition, order].filterMap id)
  else
    let frame ← g.frame interval
    symbol ")"
    return " ".intercalate ([base, partition, order, some frame].filterMap id)

/-- The name of a window, and the window or the other name that it stands for. -/
def namedWindow (g : Grammar) (interval : Parser Expr) : Parser String := do
  let name ← identifier
  keyword "AS"
  if ← symbol? "(" then return name.text ++ " AS (" ++ (← g.windowSpec interval) ++ ")"
  else return name.text ++ " AS " ++ (← identifier).text

end SearchSql.Sql.Grammar
