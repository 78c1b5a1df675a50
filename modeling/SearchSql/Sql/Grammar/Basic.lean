import SearchSql.Decimal.Literal
import SearchSql.Sql.Parser
import SearchSql.Sql.Select

/-!
# The grammar, level by level

An expression may hold queries and a query expressions, to a limited depth. A `Level` is what can be
read within one more step of nesting, and a `Grammar` gives the rules what they refer to: the level
below, a number of steps above the number of tokens, and the operands of operators, which are no
step of nesting. This module holds the rules for names and literals.
-/

namespace SearchSql.Sql

/-- What can be read at some depth. The flag says that PRIOR may stand before an operand. -/
structure Level where
  expression : (prior : Bool) → Parser Expr
  query : (prior : Bool) → Parser SelectQuery
  statement : Parser Statement

/-- The depth at which nothing can be read any more. -/
def Level.bottom : Level where
  expression _ := failure
  query _ := failure
  statement := failure

structure Grammar where
  steps : Nat
  prior : Bool
  below : Level
  /-- An operand without what may stand behind it. -/
  operand : Parser Expr
  /-- An expression whose operators bind more strongly than the number says. -/
  operation : (strength : Nat) → Parser Expr

/-! How strongly operators bind. -/

namespace Strength

def or : Nat := 5
def and : Nat := 10
def not : Nat := 15
def access : Nat := 16
def is : Nat := 17
def like : Nat := 19
def comparison : Nat := 20
def bitOr : Nat := 21
def bitXor : Nat := 22
def bitAnd : Nat := 23
def xor : Nat := 24
def sum : Nat := 30
def product : Nat := 40
def zone : Nat := 41
def postfixed : Nat := 50

end Strength

open SearchSql.Sql.Parser

/-- A name; a string may stand for it. -/
def Token.identifier? : Token → Option Identifier
  | string text => some ⟨text, some '\''⟩
  | token => token.name?

def identifier : Parser Identifier := do
  match (← next).identifier? with
  | some name => pure name
  | none => failure

/-- A label, which needs AS if it is one of the words. -/
def label? (reserved : List String) : Parser (Option Identifier) := do
  if ← keyword? "AS" then some <$> identifier
  else
    match ← peek with
    | some (.word text) =>
      if reserved.contains (keywordForm text) then pure none else some <$> identifier
    | some (.quoted ..) => some <$> identifier
    | some (.string _) => some <$> identifier
    | _ => pure none

/-- A text that a rule asks for: a string, or a word that is no keyword. -/
def literalString : Parser String := do
  match ← next with
  | .string text => pure text
  | .literal .escaped text => pure text
  | .literal .unicode text => pure text
  | .word text => if (Token.word text).isPlainName then pure text else failure
  | .quoted _ text => pure text
  | _ => failure

/-- A whole number of 64 bits, in its shortest spelling. -/
def wholeNumber : Parser String := do
  match ← next with
  | .number text _ =>
    match Decimal.word64? text with
    | some number => pure (Nat.repr number)
    | none => failure
  | _ => failure

/-- The name of a placeholder, after its mark. -/
def placeholderName : Parser String := do
  match ← next with
  | .word text => pure text
  | .quoted _ text => pure text
  | .number text false => pure text
  | _ => failure

/-- A whole number of 32 bits, in its shortest spelling. -/
def shortNumber : Parser String := do
  match ← next with
  | .number text _ =>
    match Decimal.word64? text with
    | some number => if number < 4294967296 then pure (Nat.repr number) else failure
    | none => failure
  | _ => failure

/-- A literal where no other expression may stand. -/
def literal : Parser Expr := do
  match ← next with
  | .word text =>
    match keywordForm text with
    | "TRUE" => pure (.bool true)
    | "FALSE" => pure (.bool false)
    | "NULL" => pure .null
    | _ => failure
  | .quoted '"' text => pure (.phrase (quotedText '"' text))
  | .quoted .. => failure
  | .number text long => pure (.number text long)
  | .string text => pure (.string text)
  | .literal form value => pure (.phrase (form.text value))
  | .placeholder text => pure (.phrase text)
  | .symbol mark =>
    if mark = ":" ∨ mark = "@" then return .phrase (mark ++ (← placeholderName)) else failure

/-- A string between quotes, where no other literal may stand. -/
def quotedString : Parser String := do
  match ← next with
  | .string text => pure text
  | _ => failure

/-- A number, or a placeholder for one. -/
def numericLiteral : Parser String := do
  match ← peek with
  | some (.number ..) => Expr.text <$> literal
  | some (.placeholder _) => Expr.text <$> literal
  | some (.symbol _) => Expr.text <$> literal
  | _ => failure

/-- A number that may have a sign. -/
def signedNumber : Parser String := do
  if ← symbol? "+" then return "+" ++ (← numericLiteral)
  else if ← symbol? "-" then return "-" ++ (← numericLiteral)
  else numericLiteral

/-- Passes over one token where a name is asked for, and says whether it is one. -/
def passName : Parser Bool := fun tokens =>
  some ((tokens.head?.bind Token.identifier?).isSome, tokens.drop 1)

/-- Passes over names with dots between them, up to a token that is no name and with it. -/
def passNames : Parser Unit := fun tokens => some ((), pass tokens)
where
  pass : List Token → List Token
    | [] => []
    | [_] => []
    | token :: mark :: rest =>
      if token.identifier?.isSome ∧ mark = .symbol "." then pass rest else mark :: rest

namespace Grammar

def expression (g : Grammar) : Parser Expr := g.below.expression g.prior

/-- An expression in which PRIOR may stand before an operand. -/
def relatedExpression (g : Grammar) : Parser Expr := g.below.expression true

def query (g : Grammar) : Parser SelectQuery := g.below.query g.prior

def commas {α : Type} (g : Grammar) (parser : Parser α) : Parser (List α) :=
  commaSeparated g.steps parser

def expressions (g : Grammar) : Parser (List Expr) := g.commas g.expression

def expressionText (g : Grammar) : Parser String := do
  return (← g.expression).text

def expressionsText (g : Grammar) : Parser String := do
  return commaText ((← g.expressions).map Expr.text)

/-- Names with dots between them. -/
def objectName (g : Grammar) : Parser (List Identifier) := do
  let first ← identifier
  let more ← repeated g.steps do
    if ← symbol? "." then some <$> identifier else pure none
  return first :: more

def objectNameText (g : Grammar) : Parser String := do
  return Identifier.pathText (← g.objectName)

/-- The texts of names in brackets. -/
def columnList (g : Grammar) : Parser String :=
  inBrackets do
    return commaText ((← g.commas identifier).map Identifier.text)

def columnList? (g : Grammar) : Parser (Option String) := do
  if ← nextIsSymbol "(" then some <$> g.columnList else pure none

/-- The label of a table, with names for its columns. -/
def tableLabel? (g : Grammar) : Parser (Option String) := do
  match ← label? Keyword.endsTable with
  | none => pure none
  | some name =>
    let columns ← g.columnList?
    return some (name.text ++ optionText (fun columns => " (" ++ columns ++ ")") columns)

end Grammar

end SearchSql.Sql
