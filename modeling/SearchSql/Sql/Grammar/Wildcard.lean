import SearchSql.Sql.Grammar.Basic

/-!
# Wildcards

A star, alone or behind names with dots, stands where a list of columns or of arguments may name
all columns.
-/

namespace SearchSql.Sql

open SearchSql.Sql.Parser

/-- The names in front of a star, each with a dot behind it. -/
def qualifiers? : List Token → Option (List Identifier × List Token)
  | token :: .symbol "." :: .symbol "*" :: rest =>
    token.identifier?.map fun name => ([name], rest)
  | token :: .symbol "." :: rest =>
    token.identifier?.bind fun name =>
      (qualifiers? rest).map fun (names, rest) => (name :: names, rest)
  | _ => none

def wildcard? : Parser (Option Expr)
  | .symbol "*" :: rest => some (some .wildcard, rest)
  | tokens =>
    match qualifiers? tokens with
    | some (names, rest) => some (some (.qualifiedWildcard names), rest)
    | none => some (none, tokens)

namespace Grammar

/-- A wildcard or an expression. -/
def wildcardOrExpression (g : Grammar) : Parser Expr := do
  match ← wildcard? with
  | some star => return star
  | none => g.expression

/-- What a wildcard leaves out, replaces or renames. -/
def wildcardOptions (g : Grammar) : Parser String := do
  let pattern ← after? "ILIKE" do
    match ← next with
    | .string text => return " ILIKE " ++ stringText text
    | _ => failure
  let excluded ← if pattern.isSome then pure none else after? "EXCLUDE" do
    match ← g.columnList? with
    | some columns => return " EXCLUDE (" ++ columns ++ ")"
    | none => return " EXCLUDE " ++ (← identifier).text
  let excepted ← after? "EXCEPT" do
    match ← g.columnList? with
    | some columns => return " EXCEPT (" ++ columns ++ ")"
    | none => return " EXCEPT (" ++ (← identifier).text ++ ")"
  let replaced ← after? "REPLACE" do
    let items ← inBrackets <| g.commas do
      let value ← g.expressionText
      let named ← keyword? "AS"
      return value ++ (if named then " AS " else " ") ++ (← identifier).text
    return " REPLACE (" ++ commaText items ++ ")"
  let change : Parser String := do
    let name ← identifier
    keyword "AS"
    return name.text ++ " AS " ++ (← identifier).text
  let renamed ← after? "RENAME" do
    if ← nextIsSymbol "(" then
      return " RENAME (" ++ commaText (← inBrackets (g.commas change)) ++ ")"
    else return " RENAME " ++ (← change)
  return String.join ([pattern, excluded, excepted, replaced, renamed].map (·.getD ""))

/-- A term of a select list. FROM is no name here, unless it is quoted or qualified. -/
def selectTerm (g : Grammar) : Parser SelectTerm := do
  match ← g.wildcardOrExpression with
  | .wildcard => return .wildcard (← g.wildcardOptions)
  | .qualifiedWildcard names => return .qualifiedWildcard names (← g.wildcardOptions)
  | .identifier ⟨name, none⟩ =>
    guard (name.map Char.toLower != "from")
    return .value (.identifier ⟨name, none⟩) (← label? Keyword.endsColumn)
  | value => return .value value (← label? Keyword.endsColumn)

end Grammar

end SearchSql.Sql
