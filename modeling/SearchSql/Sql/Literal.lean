/-!
# Names and literals as they are written in SQL

Names and strings are held without their quotes and escapes. Written out again, a name keeps the
kind of quotes that it had, and a literal the form that it had; the text inside the quotes takes
one normal spelling.
-/

namespace SearchSql.Sql

/-- A name, with the quote that it was written in if there was one. -/
structure Identifier where
  value : String
  quote : Option Char := none
deriving DecidableEq, Inhabited

/-- The forms of literals other than plain strings and numbers. -/
inductive LiteralForm
  | national
  | hexadecimal
  | escaped
  | unicode
  | bytes (quote : Char)
  | raw (quote : Char)
  | rawTriple (quote : Char)
  | dollar (tag : String)
deriving DecidableEq

/--
The inside of a quoted text: a quote is written twice, except that a pair of quotes stays a pair
and a quote after a backslash stays as it is. The flag says that the last character other than
such a quote was a backslash.
-/
def quotedBodyText (quote : Char) : (afterBackslash : Bool) → List Char → List Char
  | _, [] => []
  | true, c :: rest =>
    if c = quote then c :: quotedBodyText quote true rest
    else c :: quotedBodyText quote (c == '\\') rest
  | false, [c] => if c = quote then [c, c] else [c]
  | false, c :: d :: rest =>
    if c = quote then
      if d = quote then c :: d :: quotedBodyText quote false rest
      else c :: c :: quotedBodyText quote false (d :: rest)
    else c :: quotedBodyText quote (c == '\\') (d :: rest)

def enclosed (quote : Char) (text : String) : String :=
  String.singleton quote ++ text ++ String.singleton quote

def quotedText (quote : Char) (text : String) : String :=
  enclosed quote (String.ofList (quotedBodyText quote false text.toList))

def stringText (text : String) : String := quotedText '\'' text

namespace Identifier

def text (name : Identifier) : String :=
  match name.quote with
  | none => name.value
  | some quote => quotedText quote name.value

/-- Names joined by dots, as they are written. -/
def pathText (names : List Identifier) : String :=
  ".".intercalate (names.map text)

/-- Names joined by dots, without their quotes. -/
def path (names : List Identifier) : String :=
  ".".intercalate (names.map value)

end Identifier

def escapedCharacter : Char → List Char
  | '\'' => ['\\', '\'']
  | '\\' => ['\\', '\\']
  | '\n' => ['\\', 'n']
  | '\t' => ['\\', 't']
  | '\r' => ['\\', 'r']
  | c => [c]

/-- At least so many hexadecimal digits, letters in upper case. -/
def upperHex (width number : Nat) : List Char :=
  let digits := (Nat.toDigits 16 number).map Char.toUpper
  List.replicate (width - digits.length) '0' ++ digits

def unicodeCharacter (c : Char) : List Char :=
  if c = '\'' then ['\'', '\'']
  else if c = '\\' then ['\\', '\\']
  else if c.toNat < 0x80 then [c]
  else if c.toNat ≤ 0xffff then '\\' :: upperHex 4 c.toNat
  else '\\' :: '+' :: upperHex 6 c.toNat

namespace LiteralForm

/-- The literal with its text put between its marks as it is. -/
def plainText (form : LiteralForm) (text : String) : String :=
  match form with
  | national => "N" ++ enclosed '\'' text
  | hexadecimal => "X" ++ enclosed '\'' text
  | escaped => "E" ++ enclosed '\'' text
  | unicode => "U&" ++ enclosed '\'' text
  | bytes quote => "B" ++ enclosed quote text
  | raw quote => "R" ++ enclosed quote text
  | rawTriple quote => "R" ++ enclosed quote (enclosed quote (enclosed quote text))
  | dollar tag => enclosed '$' tag ++ text ++ enclosed '$' tag

/-- The literal as it is written in normal text. -/
def text (form : LiteralForm) (value : String) : String :=
  match form with
  | escaped => form.plainText (String.ofList (value.toList.flatMap escapedCharacter))
  | unicode => form.plainText (String.ofList (value.toList.flatMap unicodeCharacter))
  | _ => form.plainText value

end LiteralForm

end SearchSql.Sql
