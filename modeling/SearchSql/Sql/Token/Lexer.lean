import SearchSql.Sql.Token
import SearchSql.Sql.Token.LiteralBody
import SearchSql.Text.CharacterClass
import SearchSql.Text.Numeric

/-!
# Reading tokens

`lexeme` reads one token, blank or comment at the front of a text, and `Token.scan` the tokens of a
whole text. At each place the longest symbol is taken.
-/

namespace SearchSql.Sql

def startsWord (c : Char) : Bool :=
  Text.isAlphabetic c || c == '_' || c == '#' || c == '@'

def continuesWord (c : Char) : Bool :=
  Text.isAlphabetic c || c.isDigit || c == '_' || c == '#' || c == '@' || c == '$'

/-- The symbols of more than one character, longer ones first. -/
def longSymbols : List String := [
  "!~~*",
  "->>", "||/", "!~~", "!~*", "<=>", "~~*", "#>>",
  "->", "//", "||", "|/", "=>", "==", "!~", "!=", "!!", "<=", "<>", "<<", "<@", ">=", ">>", "::",
  ":=", "&&", "^@", "~~", "~*", "#-", "#>", "@>", "@?"]

/-- What stands at the front of a text, and the rest. A blank or a comment is no token. -/
abbrev Lexeme := Option Token × List Char

def literalLexeme (make : String → Token) (body : Body) : Option Lexeme :=
  body.map fun (value, rest) => (some (make (String.ofList value)), rest)

/-- A word with the given beginning. -/
def wordLexeme (start rest : List Char) : Lexeme :=
  (some (.word (String.ofList (start ++ rest.takeWhile continuesWord))),
    rest.dropWhile continuesWord)

/-- A raw string, from its first quote. Two quotes are an empty string, three open a long one. -/
def rawLexeme (quote : Char) (text : List Char) : Option Lexeme :=
  if [quote, quote, quote].isPrefixOf text then
    literalLexeme (.literal (.rawTriple quote)) (tripleBody quote (text.drop 3))
  else if [quote, quote].isPrefixOf text then
    some (some (.literal (.raw quote) ""), text.drop 2)
  else literalLexeme (.literal (.raw quote)) (quotedBody quote 0 (text.drop 1))

/-- The literal that a letter leads, if the letter stands directly before its quote. -/
def letteredLexeme (letter : Char) (rest : List Char) : Option (Option Lexeme) :=
  match letter.toLower, rest with
  | 'b', '\'' :: body => some (literalLexeme (.literal (.bytes '\'')) (quotedBody '\'' 0 body))
  | 'b', '"' :: body => some (literalLexeme (.literal (.bytes '"')) (quotedBody '"' 0 body))
  | 'r', '\'' :: _ => some (rawLexeme '\'' rest)
  | 'r', '"' :: _ => some (rawLexeme '"' rest)
  | 'n', '\'' :: body => some (literalLexeme (.literal .national) (backslashBody 0 body))
  | 'e', '\'' :: body => some (literalLexeme (.literal .escaped) (escapedBody 0 body))
  | 'u', '&' :: '\'' :: body => some (literalLexeme (.literal .unicode) (unicodeBody 0 body))
  | 'x', '\'' :: body => some (literalLexeme (.literal .hexadecimal) (backslashBody 0 body))
  | _, _ => none

/-- The exponent at the front of a text. Without a digit there is none. -/
def exponentLength (text : List Char) : Nat :=
  match text with
  | c :: rest =>
    if c = 'e' ∨ c = 'E' then
      let sign := match rest.head? with
        | some '+' => 1
        | some '-' => 1
        | _ => 0
      let digits := ((rest.drop sign).takeWhile Char.isDigit).length
      if digits = 0 then 0 else 1 + sign + digits
    else 0
  | [] => 0

/-- How many characters at the front of a text are the digits of a number with its point. -/
def pointedLength (text : List Char) : Nat :=
  let whole := (text.takeWhile Char.isDigit).length
  if (text.drop whole).head? = some '.' then
    whole + 1 + ((text.drop (whole + 1)).takeWhile Char.isDigit).length
  else whole

/-- A number or a dot, at a digit or a dot. -/
def numberLexeme (text : List Char) : Lexeme :=
  if text.takeWhile Char.isDigit = ['0'] ∧ (text.drop 1).head? = some 'x' then
    (some (.literal .hexadecimal (String.ofList ((text.drop 2).takeWhile isHexDigit))),
      (text.drop 2).dropWhile isHexDigit)
  else
    let pointed := pointedLength text
    if text.take pointed = ['.'] then (some (.symbol "."), text.drop 1)
    else
      let length := pointed + exponentLength (text.drop pointed)
      let number := String.ofList (text.take length)
      match text.drop length with
      | 'L' :: rest => (some (.number number true), rest)
      | rest => (some (.number number false), rest)

/-- A text between dollar signs or a placeholder, after the first dollar sign. -/
def dollarLexeme (text : List Char) : Option Lexeme :=
  if text.head? = some '$' then literalLexeme (.literal (.dollar "")) (dollarBody (text.drop 1))
  else
    let isNamed (c : Char) : Bool := Text.isAlphanumeric c || c == '_'
    let name := text.takeWhile isNamed
    let rest := text.dropWhile isNamed
    if rest.head? = some '$' then
      literalLexeme (.literal (.dollar (String.ofList name))) (taggedBody name 0 (rest.drop 1))
    else some (some (.placeholder ("$" ++ String.ofList name)), rest)

def symbolLexeme (text : List Char) : Lexeme :=
  match longSymbols.find? fun symbol => symbol.toList.isPrefixOf text with
  | some symbol => (some (.symbol symbol), text.drop symbol.length)
  | none => (some (.symbol (String.ofList (text.take 1))), text.drop 1)

/-- A word or a symbol after `#`: what neither ends a symbol nor is a space begins a word. -/
def hashLexeme (rest : List Char) : Lexeme :=
  match rest with
  | [] => symbolLexeme ['#']
  | c :: more =>
    if c = '-' ∨ c = '>' ∨ c = ' ' then symbolLexeme ('#' :: rest) else wordLexeme ['#', c] more

/-- A word or a symbol after `@`. -/
def atLexeme (rest : List Char) : Lexeme :=
  match rest with
  | [] => symbolLexeme ['@']
  | '@' :: [] => (some (.symbol "@@"), [])
  | '@' :: ' ' :: more => (some (.symbol "@@"), ' ' :: more)
  | '@' :: c :: more => wordLexeme ['@', '@', c] more
  | c :: more =>
    if c = '>' ∨ c = '?' ∨ c = ' ' then symbolLexeme ('@' :: rest) else wordLexeme ['@', c] more

/-- Reads what stands at the front of a text; the text is malformed if a literal or comment is. -/
def lexeme (c : Char) (rest : List Char) : Option Lexeme :=
  if Text.isBlank c then some (none, rest)
  else if let some lettered := letteredLexeme c rest then lettered
  else if c = '\'' then literalLexeme .string (quotedBody '\'' 0 rest)
  else if c = '"' ∨ c = '`' then literalLexeme (.quoted c) (quotedBody c 0 rest)
  else if c.isDigit ∨ c = '.' then some (numberLexeme (c :: rest))
  else if c = '#' then some (hashLexeme rest)
  else if c = '@' then some (atLexeme rest)
  else if startsWord c then some (wordLexeme [c] rest)
  else if c = '$' then dollarLexeme rest
  else if c = '?' then
    some (some (.placeholder ("?" ++ String.ofList (rest.takeWhile Text.isNumeric))),
      rest.dropWhile Text.isNumeric)
  else if c = '-' ∧ rest.head? = some '-' then some (none, afterLineComment (rest.drop 1))
  else if c = '/' ∧ rest.head? = some '*' then
    (afterBlockComment 1 ' ' (rest.drop 1)).map (none, ·)
  else some (symbolLexeme (c :: rest))

/-- The tokens of a text, read with at most so many steps. -/
def Token.scanFrom : Nat → List Char → Option (List Token)
  | _, [] => some []
  | 0, _ :: _ => none
  | steps + 1, c :: rest =>
    match lexeme c rest with
    | none => none
    | some (none, rest) => scanFrom steps rest
    | some (some token, rest) => (scanFrom steps rest).map (token :: ·)

/-- The tokens of a text. Every step passes at least one character. -/
def Token.scan (text : String) : Option (List Token) :=
  scanFrom text.toList.length text.toList

end SearchSql.Sql
