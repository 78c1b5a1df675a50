import SearchSql.Sql.Grammar.Operand

/-!
# Patterns of rows

A relation may be searched for runs of rows that match a pattern. A pattern is made of symbols that
definitions tell apart: in a row, as alternatives, repeated, excluded, in any order, or grouped by
brackets. The rows of the matches, with measures taken of them, are a relation again.
-/

namespace SearchSql.Sql.Grammar

open SearchSql.Sql.Parser

/-- How often the part before it may be repeated, if that is said. -/
def quantifier? : Parser (Option String) := do
  if ← symbol? "*" then return some "*"
  else if ← symbol? "+" then return some "+"
  else if (← peek) = some (.placeholder "?") then
    let _ ← next
    return some "?"
  else if ← symbol? "\x7b" then
    let least ← if ← nextIsSymbol "," then pure "" else shortNumber
    if ← symbol? "," then
      let most ← if least ≠ "" && (← nextIsSymbol "\x7d") then pure "" else shortNumber
      symbol "\x7d"
      return some ("\x7b" ++ least ++ "," ++ most ++ "\x7d")
    else
      symbol "\x7d"
      return some ("\x7b" ++ least ++ "\x7d")
  else return none

/-- A part of a pattern that is not repeated, given what may stand in brackets. -/
def patternAtom (g : Grammar) (inner : Parser String) : Parser String := do
  match ← peek with
  | some (.symbol "^") =>
    let _ ← next
    return "^"
  | some (.placeholder "$") =>
    let _ ← next
    return "$"
  | some (.symbol "\x7b") =>
    let _ ← next
    symbol "-"
    let excluded ← identifier
    symbol "-"
    symbol "\x7d"
    return "\x7b- " ++ excluded.text ++ " -\x7d"
  | some (.word "PERMUTE") =>
    let _ ← next
    return "PERMUTE(" ++ (← g.columnList) ++ ")"
  | some (.symbol "(") => return "( " ++ (← inBrackets inner) ++ " )"
  | _ => return (← identifier).text

/-- Alternatives, each of them parts in a row, within at most so many brackets and bars. -/
def patternWithin (g : Grammar) : Nat → Parser String
  | 0 => failure
  | depth + 1 => do
    let part : Parser String := do
      let atom ← g.patternAtom (g.patternWithin depth)
      return atom ++ String.join (← repeated g.steps quantifier?)
    let first ← part
    let more ← repeated g.steps do
      if (← nextIsSymbol ")") || (← nextIsSymbol "|") then return none else some <$> part
    let sequence := " ".intercalate (first :: more)
    if ← symbol? "|" then return sequence ++ " | " ++ (← g.patternWithin depth)
    else return sequence

/-- Something that is taken of a match, under a name. -/
def measure (g : Grammar) : Parser String := do
  let value ← g.expressionText
  let _ ← keyword? "AS"
  return value ++ clauseText "AS" (← identifier).text

def rowsPerMatch? : Parser (Option String) := do
  if ← keywords? ["ONE", "ROW", "PER", "MATCH"] then return some "ONE ROW PER MATCH"
  else if ← keywords? ["ALL", "ROWS", "PER", "MATCH"] then
    let unmatched ← if ← keywords? ["SHOW", "EMPTY", "MATCHES"] then pure " SHOW EMPTY MATCHES"
      else if ← keywords? ["OMIT", "EMPTY", "MATCHES"] then pure " OMIT EMPTY MATCHES"
      else if ← keywords? ["WITH", "UNMATCHED", "ROWS"] then pure " WITH UNMATCHED ROWS"
      else pure ""
    return some ("ALL ROWS PER MATCH" ++ unmatched)
  else return none

/-- Where the search goes on after a match. -/
def afterMatch? : Parser (Option String) :=
  afterWords? ["AFTER", "MATCH", "SKIP"] do
    if ← keywords? ["PAST", "LAST", "ROW"] then return "AFTER MATCH SKIP PAST LAST ROW"
    else if ← keywords? ["TO", "NEXT", "ROW"] then return "AFTER MATCH SKIP  TO NEXT ROW"
    else
      keyword "TO"
      let place ← oneOf ["FIRST", "LAST"]
      return "AFTER MATCH SKIP TO " ++ place ++ " " ++ (← identifier).text

/-- A relation as it is searched for a pattern, after the word that says so. -/
def matchedRows (g : Grammar) (relation : Relation) : Parser Relation := do
  symbol "("
  let partition ← afterWords? ["PARTITION", "BY"] do return "PARTITION BY " ++ (← g.expressionsText)
  let order ← g.orderText?
  let measures ← after? "MEASURES" do return "MEASURES " ++ commaText (← g.commas g.measure)
  let rows ← rowsPerMatch?
  let after ← afterMatch?
  keyword "PATTERN"
  let pattern ← inBrackets (g.patternWithin g.steps)
  keyword "DEFINE"
  let definitions ← g.commas do
    let name ← identifier
    keyword "AS"
    return name.text ++ clauseText "AS" (← g.expressionText)
  symbol ")"
  let clauses := [partition, order, measures, rows, after].filterMap id
  return {
    before := relation.text ++ " MATCH_RECOGNIZE(" ++
      String.join (clauses.map (· ++ " ")) ++
      "PATTERN (" ++ pattern ++ ") DEFINE " ++ commaText definitions ++ ")"
    label := ← g.tableLabel? }

end SearchSql.Sql.Grammar
