/-!
# What stands inside a literal

Each function reads the text of a literal after its opening mark, up to and with the mark that
closes it, and gives the value of the literal and the text behind it. A literal that is not closed,
or an escape that stands for no character, makes the text malformed.
-/

namespace SearchSql.Sql

/-- A value read so far from the front of a text, and the rest of the text. -/
abbrev Body := Option (List Char × List Char)

/-- Puts a character in front of the value that the rest gives. -/
def Body.push (c : Char) (body : Body) : Body :=
  body.map fun (value, rest) => (c :: value, rest)

/-- Text up to a quote; two quotes stand for one. The number says how many characters to skip. -/
def quotedBody (quote : Char) : Nat → List Char → Body
  | _, [] => none
  | skip + 1, _ :: rest => quotedBody quote skip rest
  | 0, c :: rest =>
    if c = quote then
      if rest.head? = some quote then (quotedBody quote 1 rest).push quote else some ([], rest)
    else (quotedBody quote 0 rest).push c

/-- The character that a letter after a backslash stands for in a national or hexadecimal string. -/
def simpleEscape : Char → Char
  | '0' => '\x00'
  | 'a' => '\x07'
  | 'b' => '\x08'
  | 'f' => '\x0c'
  | 'n' => '\n'
  | 'r' => '\r'
  | 't' => '\t'
  | 'Z' => '\x1a'
  | c => c

/-- Text up to a quote, in which a backslash may also give a character its other meaning. -/
def backslashBody : Nat → List Char → Body
  | _, [] => none
  | skip + 1, _ :: rest => backslashBody skip rest
  | 0, c :: rest =>
    if c = '\'' then
      if rest.head? = some '\'' then (backslashBody 1 rest).push '\'' else some ([], rest)
    else if c = '\\' then
      match rest.head? with
      | none => none
      | some escaped => (backslashBody 1 rest).push (simpleEscape escaped)
    else (backslashBody 0 rest).push c

def hexDigit? (c : Char) : Option Nat :=
  if c.isDigit then some (c.toNat - '0'.toNat)
  else if 'a' ≤ c ∧ c ≤ 'f' then some (c.toNat - 'a'.toNat + 10)
  else if 'A' ≤ c ∧ c ≤ 'F' then some (c.toNat - 'A'.toNat + 10)
  else none

/-- The number that digits write, if there is at least one and all are digits of the base. -/
def digitsValue? (base : Nat) (digits : List Char) : Option Nat :=
  if digits.isEmpty then none
  else digits.foldlM (fun total c => do
    let digit ← hexDigit? c
    if digit < base then some (total * base + digit) else none) 0

def characterOf? (codePoint : Nat) : Option Char :=
  if codePoint.isValidChar then some (Char.ofNat codePoint) else none

/-- Exactly so many hexadecimal digits as a character; a plus sign may take the first place. -/
def codePointEscape? (width : Nat) (text : List Char) : Option Char :=
  let digits := text.take width
  if digits.length < width then none
  else (digitsValue? 16 (if digits.head? = some '+' then digits.drop 1 else digits)).bind
    characterOf?

/-- A byte as a character: of its low eight bits, only the values of ASCII are characters. -/
def byteEscape? (base : Nat) (digits : List Char) : Option Char :=
  (digitsValue? base digits).bind fun value =>
    if value % 256 < 128 then some (Char.ofNat (value % 256)) else none

def isHexDigit (c : Char) : Bool := (hexDigit? c).isSome

def isOctalDigit (c : Char) : Bool := '0' ≤ c && c ≤ '7'

/-- What follows a backslash in an escaped string: the character and how many it is written with. -/
def escapeSequence? : List Char → Option (Char × Nat)
  | [] => none
  | c :: rest =>
    match c with
    | 'b' => some ('\x08', 1)
    | 'f' => some ('\x0c', 1)
    | 'n' => some ('\n', 1)
    | 'r' => some ('\r', 1)
    | 't' => some ('\t', 1)
    | 'u' => (codePointEscape? 4 rest).map (·, 5)
    | 'U' => (codePointEscape? 8 rest).map (·, 9)
    | 'x' =>
      let digits := (rest.take 2).takeWhile isHexDigit
      if digits.isEmpty then some ('x', 1)
      else (byteEscape? 16 digits).map (·, 1 + digits.length)
    | c =>
      if isOctalDigit c then
        let digits := c :: (rest.take 2).takeWhile isOctalDigit
        (byteEscape? 8 digits).map (·, digits.length)
      else some (c, 1)

/-- Text up to a quote, with escapes. No escape may stand for the character zero. -/
def escapedBody : Nat → List Char → Body
  | _, [] => none
  | skip + 1, _ :: rest => escapedBody skip rest
  | 0, c :: rest =>
    if c = '\'' then
      if rest.head? = some '\'' then (escapedBody 1 rest).push '\'' else some ([], rest)
    else if c = '\\' then
      match escapeSequence? rest with
      | none => none
      | some (decoded, length) =>
        if decoded = '\x00' then none else (escapedBody length rest).push decoded
    else (escapedBody 0 rest).push c

/-- Exactly so many hexadecimal digits as a character. -/
def hexCharacter? (width : Nat) (text : List Char) : Option Char :=
  let digits := text.take width
  if digits.length < width then none else (digitsValue? 16 digits).bind characterOf?

/-- Text up to a quote, in which a backslash leads the digits of a code point. -/
def unicodeBody : Nat → List Char → Body
  | _, [] => none
  | skip + 1, _ :: rest => unicodeBody skip rest
  | 0, c :: rest =>
    if c = '\'' then
      if rest.head? = some '\'' then (unicodeBody 1 rest).push '\'' else some ([], rest)
    else if c = '\\' then
      match rest.head? with
      | some '\\' => (unicodeBody 1 rest).push '\\'
      | some '+' =>
        match hexCharacter? 6 (rest.drop 1) with
        | none => none
        | some decoded => (unicodeBody 7 rest).push decoded
      | _ =>
        match hexCharacter? 4 rest with
        | none => none
        | some decoded => (unicodeBody 4 rest).push decoded
    else (unicodeBody 0 rest).push c

/-- Text up to three quotes in a row. -/
def tripleBody (quote : Char) : List Char → Body
  | [] => none
  | c :: rest =>
    if [quote, quote, quote].isPrefixOf (c :: rest) then some ([], rest.drop 2)
    else (tripleBody quote rest).push c

/-- Text up to two dollar signs in a row. -/
def dollarBody : List Char → Body
  | [] => none
  | c :: rest =>
    if c = '$' ∧ rest.head? = some '$' then some ([], rest.drop 1)
    else (dollarBody rest).push c

/-- How many characters two texts have in common at their front. -/
def commonLength : List Char → List Char → Nat
  | c :: left, d :: right => if c = d then commonLength left right + 1 else 0
  | _, _ => 0

/--
Text up to a tag between two dollar signs. Where a dollar sign does not lead to the closing mark,
what was compared with the tag belongs to the text, with the character that differed from it, and
is not looked at again. The number says how many characters are still to be taken in this way.
-/
def taggedBody (tag : List Char) : Nat → List Char → Body
  | _, [] => none
  | known + 1, c :: rest => (taggedBody tag known rest).push c
  | 0, c :: rest =>
    if c = '$' then
      let common := commonLength tag rest
      if common = tag.length then
        if (rest.drop common).head? = some '$' then some ([], rest.drop (common + 1))
        else (taggedBody tag common rest).push c
      else (taggedBody tag (common + 1) rest).push c
    else (taggedBody tag 0 rest).push c

/-- The rest of a comment that ends with its line. -/
def afterLineComment (text : List Char) : List Char :=
  (text.dropWhile (· != '\n')).drop 1

/--
The rest of a comment between marks, which may hold further ones. A character takes part in two
marks if both can be read at it.
-/
def afterBlockComment (depth : Nat) (last : Char) : List Char → Option (List Char)
  | [] => none
  | c :: rest =>
    if last = '/' ∧ c = '*' then afterBlockComment (depth + 1) c rest
    else if last = '*' ∧ c = '/' then
      if depth ≤ 1 then some rest else afterBlockComment (depth - 1) c rest
    else afterBlockComment depth c rest

end SearchSql.Sql
