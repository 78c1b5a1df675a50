import SearchSql.Decimal.Layout
import SearchSql.Json.Basic

/-!
# JSON text

`Json.compact` writes a document without blanks, the form in which documents go to the search
engine and into results. `Json.pretty` writes one member or element per line. In both, a string
escapes only the quote, the backslash and the control characters below U+0020.
-/

namespace SearchSql

namespace Number

def text : Number → String
  | .integer z => if z < 0 then "-" ++ (Nat.repr z.natAbs) else Nat.repr z.natAbs
  | .double d => d.jsonText

end Number

namespace Json

def hexDigit (value : Nat) : Char := (Nat.digitChar value)

/-- A character inside a JSON string. -/
def escapeChar (c : Char) : List Char :=
  if c = '"' then ['\\', '"']
  else if c = '\\' then ['\\', '\\']
  else if c = '\n' then ['\\', 'n']
  else if c = '\r' then ['\\', 'r']
  else if c = '\t' then ['\\', 't']
  else if c = '\x08' then ['\\', 'b']
  else if c = '\x0c' then ['\\', 'f']
  else if c.toNat < 0x20 then
    ['\\', 'u', '0', '0', hexDigit (c.toNat / 16), hexDigit (c.toNat % 16)]
  else [c]

def needsEscape (c : Char) : Bool := c = '"' || c = '\\' || c.toNat < 0x20

def quote (text : String) : String :=
  if text.any needsEscape then
    "\"" ++ String.ofList (text.toList.flatMap escapeChar) ++ "\""
  else "\"" ++ text ++ "\""

mutual

def compact : Json → String
  | .null => "null"
  | .bool true => "true"
  | .bool false => "false"
  | .number value => value.text
  | .string value => quote value
  | .array items => "[" ++ ",".intercalate (compactItems items) ++ "]"
  | .object members => "\x7b" ++ ",".intercalate (compactMembers members) ++ "\x7d"

def compactItems : List Json → List String
  | [] => []
  | item :: rest => compact item :: compactItems rest

def compactMembers : List (String × Json) → List String
  | [] => []
  | (name, value) :: rest => (quote name ++ ":" ++ compact value) :: compactMembers rest

end

def indentation (level : Nat) : String := String.ofList (List.replicate (2 * level) ' ')

/-- Items between brackets, one per line, two blanks deeper than the line that opens them. -/
def block (level : Nat) (opening closing : String) (items : List String) : String :=
  if items.isEmpty then opening ++ closing
  else
    let lineStart := "\n" ++ indentation (level + 1)
    opening ++ lineStart ++ ("," ++ lineStart).intercalate items ++ "\n" ++ indentation level ++
      closing

mutual

def prettyAt (level : Nat) : Json → String
  | .null => "null"
  | .bool true => "true"
  | .bool false => "false"
  | .number value => value.text
  | .string value => quote value
  | .array items => block level "[" "]" (prettyItems (level + 1) items)
  | .object members => block level "\x7b" "\x7d" (prettyMembers (level + 1) members)

def prettyItems (level : Nat) : List Json → List String
  | [] => []
  | item :: rest => prettyAt level item :: prettyItems level rest

def prettyMembers (level : Nat) : List (String × Json) → List String
  | [] => []
  | (name, value) :: rest =>
    (quote name ++ ": " ++ prettyAt level value) :: prettyMembers level rest

end

def pretty (value : Json) : String := prettyAt 0 value

end Json

end SearchSql
