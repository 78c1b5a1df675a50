import SearchSql.Sql.Token

/-!
# Reading a list of tokens

A parser takes tokens from the front of a list and gives a value and the tokens that are left, or
fails. A parser whose name ends in a question mark takes nothing when it does not find what it
looks for. Loops over tokens have a number of steps, to be chosen above the number of tokens.
-/

namespace SearchSql.Sql

abbrev Parser := StateT (List Token) Option

namespace Parser

variable {α : Type}

def peek : Parser (Option Token) := fun tokens => some (tokens.head?, tokens)

/-- The token behind so many others. -/
def peekAt (distance : Nat) : Parser (Option Token) :=
  fun tokens => some (tokens[distance]?, tokens)

def next : Parser Token
  | [] => none
  | token :: rest => some (token, rest)

/-- The keyword that the next token can be. -/
def peekKeyword : Parser (Option String) := fun tokens =>
  some (tokens.head?.bind Token.keyword?, tokens)

def keyword? (word : String) : Parser Bool
  | .word text :: rest =>
    if keywordForm text = word then some (true, rest) else some (false, .word text :: rest)
  | tokens => some (false, tokens)

def keyword (word : String) : Parser Unit := do
  guard (← keyword? word)

/-- The tokens behind the words, if the words stand at the front. -/
def afterKeywords? : List String → List Token → Option (List Token)
  | [], tokens => some tokens
  | word :: words, .word text :: rest =>
    if keywordForm text = word then afterKeywords? words rest else none
  | _ :: _, _ => none

/-- All of the words in a row, or nothing. -/
def keywords? (words : List String) : Parser Bool := fun tokens =>
  match afterKeywords? words tokens with
  | some rest => some (true, rest)
  | none => some (false, tokens)

def keywords (words : List String) : Parser Unit := do
  guard (← keywords? words)

/-- One of the words. -/
def oneOf? (words : List String) : Parser (Option String)
  | .word text :: rest =>
    if words.contains (keywordForm text) then some (some (keywordForm text), rest)
    else some (none, .word text :: rest)
  | tokens => some (none, tokens)

def oneOf (words : List String) : Parser String := do
  match ← oneOf? words with
  | some word => pure word
  | none => failure

def symbol? (wanted : String) : Parser Bool
  | .symbol text :: rest =>
    if text = wanted then some (true, rest) else some (false, .symbol text :: rest)
  | tokens => some (false, tokens)

def symbol (wanted : String) : Parser Unit := do
  guard (← symbol? wanted)

def nextIsSymbol (wanted : String) : Parser Bool := do
  return (← peek) = some (.symbol wanted)

/-- What the parser gives, or nothing with no token taken where it fails. -/
def attempt (parser : Parser α) : Parser (Option α) := fun tokens =>
  match parser tokens with
  | some (value, rest) => some (some value, rest)
  | none => some (none, tokens)

/-- Whether one of two things is found; the second is not looked for behind the first. -/
def either (first second : Parser Bool) : Parser Bool := do
  if ← first then return true else second

/-- The parser, if the word stands before it. -/
def after? (word : String) (parser : Parser α) : Parser (Option α) := do
  if ← keyword? word then some <$> parser else pure none

/-- The parser, if the words stand before it. -/
def afterWords? (words : List String) (parser : Parser α) : Parser (Option α) := do
  if ← keywords? words then some <$> parser else pure none

def inBrackets (parser : Parser α) : Parser α := do
  symbol "("
  let value ← parser
  symbol ")"
  return value

/-- At least one value, with commas between them. -/
def commaSeparated (steps : Nat) (parser : Parser α) : Parser (List α) :=
  match steps with
  | 0 => failure
  | steps + 1 => do
    let first ← parser
    if ← symbol? "," then
      return first :: (← commaSeparated steps parser)
    else
      return [first]

/-- Values with commas between them, or none before the closing symbol. -/
def commaSeparatedUntil (steps : Nat) (closing : String) (parser : Parser α) :
    Parser (List α) := do
  if ← nextIsSymbol closing then return [] else commaSeparated steps parser

/-- Values one after the other, until the parser gives none. -/
def repeated (steps : Nat) (parser : Parser (Option α)) : Parser (List α) :=
  match steps with
  | 0 => failure
  | steps + 1 => do
    match ← parser with
    | some first => return first :: (← repeated steps parser)
    | none => return []

end Parser

end SearchSql.Sql
