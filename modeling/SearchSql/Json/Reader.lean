import SearchSql.Decimal.Literal
import SearchSql.Json.Basic

/-!
# Reading JSON text

`Json.read` accepts exactly one JSON value with blanks around it: no trailing comma, no leading
zero, no lone surrogate, no raw control character inside a string, no literal beyond the range of a
double, and at most 127 arrays and objects inside one another. Of two members with one name the
last value wins, at the place of the first.

A value that is only passed over (`Json.skip`) is held to the form of JSON alone, not to the limits
on its numbers, surrogates and depth.
-/

namespace SearchSql.Json.Reader

/-- The blanks between the tokens of JSON. -/
def isBlank (c : Char) : Bool := c == ' ' || c == '\n' || c == '\t' || c == '\r'

def skipBlanks (text : List Char) : List Char := text.dropWhile isBlank

/-- The greatest significand that is read digit by digit: the greatest word of 64 bits. -/
def greatestSignificand : Nat := 18446744073709551615

/-- How far below zero an integer may lie. -/
def greatestNegated : Nat := 9223372036854775808

/-- Appends digits to a significand as long as it fits; the digits left over come second. -/
def appendDigits (significand : Nat) : List Char → Nat × List Char
  | [] => (significand, [])
  | c :: rest =>
    let next := significand * 10 + (c.toNat - '0'.toNat)
    if next ≤ greatestSignificand then appendDigits next rest else (significand, c :: rest)

/-- A number as it is spelled: the digits of its parts, and whether it has a sign. -/
structure Spelling where
  negative : Bool
  whole : List Char
  fraction : Option (List Char)
  exponent : Option Int

/--
A number without fraction and exponent is an integer if it fits 64 bits; minus zero is a double.
Digits of the whole part that do not fit the significand count as a power of ten, digits of the
fraction that do not fit are ignored.
-/
def Spelling.value (spelling : Spelling) : Option Number :=
  let (significand, dropped) := appendDigits 0 spelling.whole
  let asDouble (significand : Nat) (power : Int) : Option Number :=
    (Double.ofSignificand significand power).map fun magnitude =>
      .double (if spelling.negative then magnitude.neg else magnitude)
  match spelling.fraction, spelling.exponent with
  | none, none =>
    if !dropped.isEmpty then asDouble significand dropped.length
    else if !spelling.negative then some (.integer significand)
    else if 0 < significand ∧ significand ≤ greatestNegated then some (.integer (-significand))
    else asDouble significand 0
  | fraction, exponent =>
    let digits := fraction.getD []
    let (significand, ignored) := appendDigits significand digits
    asDouble significand
      ((dropped.length : Int) - (digits.length - ignored.length : Nat) + exponent.getD 0)

def isDigit (c : Char) : Bool := '0' ≤ c && c ≤ '9'

def digitsValue (digits : List Char) : Nat :=
  digits.foldl (fun value c => value * 10 + (c.toNat - '0'.toNat)) 0

/-- At least one digit, as many as there are. -/
def readDigits (text : List Char) : Option (List Char × List Char) :=
  let digits := text.takeWhile isDigit
  if digits.isEmpty then none else some (digits, text.dropWhile isDigit)

def readFraction : List Char → Option (Option (List Char) × List Char)
  | '.' :: rest => (readDigits rest).map fun (digits, rest) => (some digits, rest)
  | text => some (none, text)

def readPower : List Char → Option (Int × List Char)
  | '+' :: rest => (readDigits rest).map fun (digits, rest) => ((digitsValue digits : Int), rest)
  | '-' :: rest => (readDigits rest).map fun (digits, rest) => (-(digitsValue digits : Int), rest)
  | text => (readDigits text).map fun (digits, rest) => ((digitsValue digits : Int), rest)

def readExponent : List Char → Option (Option Int × List Char)
  | 'e' :: rest => (readPower rest).map fun (power, rest) => (some power, rest)
  | 'E' :: rest => (readPower rest).map fun (power, rest) => (some power, rest)
  | text => some (none, text)

def readUnsigned (negative : Bool) (text : List Char) : Option (Spelling × List Char) := do
  let (whole, text) ← readDigits text
  if whole.head? = some '0' ∧ whole.length ≠ 1 then none
  let (fraction, text) ← readFraction text
  let (exponent, text) ← readExponent text
  some (⟨negative, whole, fraction, exponent⟩, text)

def readSpelling : List Char → Option (Spelling × List Char)
  | '-' :: rest => readUnsigned true rest
  | text => readUnsigned false text

def readNumber (skipping : Bool) (text : List Char) : Option (Number × List Char) := do
  let (spelling, text) ← readSpelling text
  match spelling.value with
  | some value => some (value, text)
  | none => if skipping then some (.integer 0, text) else none

def hexValue (c : Char) : Option Nat :=
  if isDigit c then some (c.toNat - '0'.toNat)
  else if 'a' ≤ c ∧ c ≤ 'f' then some (c.toNat - 'a'.toNat + 10)
  else if 'A' ≤ c ∧ c ≤ 'F' then some (c.toNat - 'A'.toNat + 10)
  else none

/-- Four hexadecimal digits: one unit of sixteen bits. -/
def readUnit : List Char → Option (Nat × List Char)
  | a :: b :: c :: d :: rest => do
    let a ← hexValue a
    let b ← hexValue b
    let c ← hexValue c
    let d ← hexValue d
    some (((a * 16 + b) * 16 + c) * 16 + d, rest)
  | _ => none

def isHighSurrogate (unit : Nat) : Bool := 0xd800 ≤ unit && unit < 0xdc00

def isLowSurrogate (unit : Nat) : Bool := 0xdc00 ≤ unit && unit < 0xe000

/-- A character given by its code units; a surrogate is one half of a pair and never alone. -/
def readCodePoint (skipping : Bool) (text : List Char) : Option (Char × List Char) := do
  let (unit, text) ← readUnit text
  if skipping then some (Char.ofNat unit, text)
  else if isHighSurrogate unit then
    match text with
    | '\\' :: 'u' :: rest =>
      let (low, rest) ← readUnit rest
      if isLowSurrogate low then
        some (Char.ofNat (0x10000 + (unit - 0xd800) * 0x400 + (low - 0xdc00)), rest)
      else none
    | _ => none
  else if isLowSurrogate unit then none
  else some (Char.ofNat unit, text)

/-- What follows a backslash. -/
def readEscape (skipping : Bool) : List Char → Option (Char × List Char)
  | [] => none
  | c :: rest =>
    if c = '"' ∨ c = '\\' ∨ c = '/' then some (c, rest)
    else if c = 'n' then some ('\n', rest)
    else if c = 't' then some ('\t', rest)
    else if c = 'r' then some ('\r', rest)
    else if c = 'b' then some ('\x08', rest)
    else if c = 'f' then some ('\x0c', rest)
    else if c = 'u' then readCodePoint skipping rest
    else none

/-- The characters of a string up to its closing quote, put in reverse order before `read`. -/
def readStringEnd (skipping : Bool) : Nat → List Char → List Char → Option (String × List Char)
  | 0, _, _ => none
  | _ + 1, _, [] => none
  | fuel + 1, read, c :: rest =>
    if c = '"' then some (String.ofList read.reverse, rest)
    else if c = '\\' then
      match readEscape skipping rest with
      | some (escaped, rest) => readStringEnd skipping fuel (escaped :: read) rest
      | none => none
    else if c.toNat < 0x20 then none
    else readStringEnd skipping fuel (c :: read) rest

/-- A string after its opening quote. -/
def readString (skipping : Bool) (text : List Char) : Option (String × List Char) :=
  readStringEnd skipping text.length [] text

/-- The elements of an array after its opening bracket, when there is at least one. -/
def readItems (readValue : List Char → Option (Json × List Char)) :
    Nat → List Json → List Char → Option (List Json × List Char)
  | 0, _, _ => none
  | fuel + 1, items, text =>
    match readValue text with
    | none => none
    | some (item, text) =>
      match skipBlanks text with
      | ',' :: rest => readItems readValue fuel (item :: items) rest
      | ']' :: rest => some ((item :: items).reverse, rest)
      | _ => none

/-- A name, a colon and a value. -/
def readMember (readValue : List Char → Option (Json × List Char)) (skipping : Bool)
    (text : List Char) : Option ((String × Json) × List Char) :=
  match skipBlanks text with
  | '"' :: rest => do
    let (name, rest) ← readString skipping rest
    match skipBlanks rest with
    | ':' :: rest =>
      let (value, rest) ← readValue rest
      some ((name, value), rest)
    | _ => none
  | _ => none

/-- The members of an object after its opening brace, when there is at least one. -/
def readMembers (readValue : List Char → Option (Json × List Char)) (skipping : Bool) :
    Nat → Record → List Char → Option (Record × List Char)
  | 0, _, _ => none
  | fuel + 1, members, text =>
    match readMember readValue skipping text with
    | none => none
    | some (member, text) =>
      let members := Table.put member.1 member.2 members
      match skipBlanks text with
      | ',' :: rest => readMembers readValue skipping fuel members rest
      | '\x7d' :: rest => some (members, rest)
      | _ => none

def readWord (word : String) (value : Json) (text : List Char) : Option (Json × List Char) :=
  if word.toList.isPrefixOf text then some (value, text.drop word.length) else none

/-- A value that holds at most `depth` arrays and objects inside one another. -/
def readValue (skipping : Bool) (depth : Nat) (text : List Char) : Option (Json × List Char) :=
  match skipBlanks text with
  | [] => none
  | c :: rest =>
    if c = '"' then (readString skipping rest).map fun (text, rest) => (.string text, rest)
    else if c = '[' then
      match depth with
      | 0 => none
      | depth + 1 =>
        match skipBlanks rest with
        | ']' :: rest => some (.array [], rest)
        | rest => (readItems (readValue skipping depth) (rest.length + 1) [] rest).map
            fun (items, rest) => (.array items, rest)
    else if c = '\x7b' then
      match depth with
      | 0 => none
      | depth + 1 =>
        match skipBlanks rest with
        | '\x7d' :: rest => some (.object [], rest)
        | rest => (readMembers (readValue skipping depth) skipping (rest.length + 1) [] rest).map
            fun (members, rest) => (.object members, rest)
    else if c = 'n' then readWord "null" .null (c :: rest)
    else if c = 't' then readWord "true" (.bool true) (c :: rest)
    else if c = 'f' then readWord "false" (.bool false) (c :: rest)
    else (readNumber skipping (c :: rest)).map fun (value, rest) => (.number value, rest)

end Reader

/-- How many arrays and objects may stand inside one another. -/
def greatestDepth : Nat := 127

/-- Reads a value at the start of a text; what follows it comes second. -/
def readStart (text : List Char) : Option (Json × List Char) :=
  Reader.readValue false greatestDepth text

/-- Passes over a value at the start of a text. -/
def skip (text : List Char) : Option (List Char) :=
  (Reader.readValue true text.length text).map (·.2)

/-- The document that a text holds; `none` when the text is no JSON. -/
def read (text : String) : Option Json :=
  match readStart text.toList with
  | some (value, rest) => if (Reader.skipBlanks rest).isEmpty then some value else none
  | none => none

end SearchSql.Json
