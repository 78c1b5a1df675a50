import SearchSql.Sql.Keyword
import SearchSql.Sql.Literal

/-!
# Tokens of SQL

SQL text is a sequence of words, quoted names, literals and symbols; blanks and comments only
separate them.
-/

namespace SearchSql.Sql

inductive Token
  /-- A word without quotes: a name or a keyword. -/
  | word (text : String)
  | quoted (quote : Char) (text : String)
  /-- A number as it is written, without the letter that may mark it as long. -/
  | number (text : String) (long : Bool)
  | string (text : String)
  | literal (form : LiteralForm) (value : String)
  | placeholder (text : String)
  | symbol (text : String)
deriving DecidableEq

namespace Token

/-- The form in which the token is compared with keywords, if it can be one. -/
def keyword? : Token → Option String
  | word text => some (keywordForm text)
  | _ => none

/-- Whether the token is a word that no rule of the grammar knows, or a quoted name. -/
def isPlainName : Token → Bool
  | word text => !Keyword.all.contains (keywordForm text)
  | quoted .. => true
  | _ => false

/-- The name that a word or a quoted name stands for. -/
def name? : Token → Option Identifier
  | word text => some ⟨text, none⟩
  | quoted quote text => some ⟨text, some quote⟩
  | _ => none

def numberText (text : String) (long : Bool) : String :=
  text ++ if long then "L" else ""

/-- The token as it stands in the name of an operator. -/
def text : Token → String
  | word text => text
  | quoted quote text => enclosed quote text
  | number text long => numberText text long
  | string text => enclosed '\'' text
  | literal form value => form.plainText value
  | placeholder text => text
  | symbol text => text

end Token

end SearchSql.Sql
