import SearchSql.Sql.Grammar.Order
import SearchSql.Sql.Grammar.Wildcard

/-!
# Calls

A call has a name and arguments in brackets. Inside the brackets clauses may follow the arguments;
behind them, further arguments (which make the first ones parameters) and what the call is
evaluated over.
-/

namespace SearchSql.Sql

open SearchSql.Sql.Parser

/-- The arguments of a call with what stands around them inside the brackets. -/
structure ArgumentList where
  before : String := ""
  arguments : List Expr := []
  clauses : List String := []
  /-- Whether a clause says what becomes of nulls. -/
  saysNulls : Bool := false

namespace ArgumentList

def after (list : ArgumentList) : String := String.join (list.clauses.map (" " ++ ·))

def text (list : ArgumentList) : String :=
  "(" ++ list.before ++ commaText (list.arguments.map Expr.text) ++ list.after ++ ")"

end ArgumentList

def nullTreatment? : Parser (Option String) := do
  match ← oneOf? ["RESPECT", "IGNORE"] with
  | some word => do
    keyword "NULLS"
    return some (word ++ " NULLS")
  | none => return none

namespace Grammar

/-- An argument, which may be given by name. -/
def argument (g : Grammar) : Parser Expr := do
  match ← peekAt 1 with
  | some (.symbol "=>") =>
    let name ← identifier
    symbol "=>"
    return .named name "=>" (← g.wildcardOrExpression)
  | some (.symbol ":=") =>
    let name ← identifier
    symbol ":="
    return .named name ":=" (← g.expression)
  | _ => g.wildcardOrExpression

/-- What a list of joined texts does when it becomes too long. -/
def overflowText? (g : Grammar) : Parser (Option String) :=
  afterWords? ["ON", "OVERFLOW"] do
    if ← keyword? "ERROR" then return "ON OVERFLOW ERROR"
    keyword "TRUNCATE"
    let filler ← match ← peek with
      | some (.string _) => some <$> g.expressionText
      | some (.literal form _) =>
        match form with
        | .escaped => some <$> g.expressionText
        | .national => some <$> g.expressionText
        | .hexadecimal => some <$> g.expressionText
        | .unicode => some <$> g.expressionText
        | _ => failure
      | some (.word _) => pure none
      | _ => failure
    let count ← oneOf ["WITH", "WITHOUT"]
    keyword "COUNT"
    return "ON OVERFLOW TRUNCATE" ++ optionText (" " ++ ·) filler ++ " " ++ count ++ " COUNT"

/-- The clauses behind the arguments of a call, up to the closing bracket. -/
def argumentClauses (g : Grammar) : Parser (Option String × List String) := do
  let nulls ← nullTreatment?
  let order ← g.orderText?
  let limit ← after? "LIMIT" do return "LIMIT " ++ (← g.expressionText)
  let having ← after? "HAVING" do
    let kind ← oneOf ["MIN", "MAX"]
    return "HAVING " ++ kind ++ " " ++ (← g.expressionText)
  let separator ← after? "SEPARATOR" do return "SEPARATOR " ++ (← literal).text
  let overflow ← g.overflowText?
  symbol ")"
  return (nulls, [nulls, order, limit, having, separator, overflow].filterMap id)

/-- The arguments of a call, after the opening bracket and with the closing one. -/
def argumentList (g : Grammar) : Parser ArgumentList := do
  if ← symbol? ")" then return {}
  let all ← keyword? "ALL"
  let distinct ← keyword? "DISTINCT"
  guard !(all && distinct)
  let arguments ← g.commas g.argument
  let (nulls, clauses) ← g.argumentClauses
  return {
    before := wordIf all "ALL" ++ wordIf distinct "DISTINCT"
    arguments
    clauses
    saysNulls := nulls.isSome }

def overText? (g : Grammar) (interval : Parser Expr) : Parser (Option String) :=
  after? "OVER" do
    if ← symbol? "(" then return " OVER (" ++ (← g.windowSpec interval) ++ ")"
    else return " OVER " ++ (← identifier).text

def withinText? (g : Grammar) : Parser (Option String) :=
  afterWords? ["WITHIN", "GROUP"] <| inBrackets do
    keywords ["ORDER", "BY"]
    return " WITHIN GROUP (" ++ orderText (← g.orderKeys) ++ ")"

/-- A call of the name, from its opening bracket. -/
def call (g : Grammar) (interval : Parser Expr) (name : List Identifier) : Parser Expr := do
  symbol "("
  let first ← g.argumentList
  let second ← if ← symbol? "(" then some <$> g.argumentList else pure none
  let list := second.getD first
  let parameters := if second.isSome then first.text else ""
  let within ← g.withinText?
  let nulls ← if list.saysNulls then pure none else nullTreatment?
  let window ← g.overText? interval
  return .call name (parameters ++ "(" ++ list.before) list.arguments
    (list.after ++ ")" ++ within.getD "" ++ optionText (" " ++ ·) nulls ++ window.getD "")

/-- A function of the time, whose brackets may be left out. -/
def timeCall (g : Grammar) (name : Identifier) : Parser Expr := do
  if ← symbol? "(" then
    let list ← g.argumentList
    return .call [name] ("(" ++ list.before) list.arguments (list.after ++ ")")
  else return .call [name] "" [] ""

end Grammar

end SearchSql.Sql
