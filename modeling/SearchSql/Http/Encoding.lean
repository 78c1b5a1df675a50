/-!
# Encodings of bytes

Percent-encoding: the characters that the URL standard has encoded in each part of a URL, and the
encoding of a character as the bytes of its UTF-8 form. Every set holds the controls and all that is
not ASCII.

Base 64: three bytes are four characters; a last group that is not full is filled up with equals
signs.
-/

namespace SearchSql.Http

def isControl (c : Char) : Bool := c.toNat < 0x20 || 0x7e < c.toNat

def inFragmentSet (c : Char) : Bool := isControl c || " \"<>\x60".contains c

def inQuerySet (c : Char) : Bool := isControl c || " \"#<>".contains c

/-- The query set for the schemes of the web. -/
def inSpecialQuerySet (c : Char) : Bool := inQuerySet c || c == '\''

def inPathSet (c : Char) : Bool := inQuerySet c || "?^\x60\x7b\x7d".contains c

/-- The set for a text that is to be one segment of a path. -/
def inSegmentSet (c : Char) : Bool := inPathSet c || "/%".contains c

def inUserSet (c : Char) : Bool := inPathSet c || "/:;=@[\\]|".contains c

/-- What a form field does not write as it is; a space is a plus sign there. -/
def inFormSet (c : Char) : Bool := !(c.isAlphanum || "*-._ ".contains c)

def upperHexDigit (value : Nat) : Char := (Nat.digitChar value).toUpper

def encodeByte (byte : UInt8) : List Char :=
  ['%', upperHexDigit (byte.toNat / 16), upperHexDigit (byte.toNat % 16)]

def encodeChar (set : Char → Bool) (c : Char) : List Char :=
  if set c then (String.utf8EncodeChar c).flatMap encodeByte else [c]

def percentEncode (set : Char → Bool) (text : List Char) : String :=
  String.ofList (text.flatMap (encodeChar set))

/-- A text as the value of a form field. -/
def formEncode (text : String) : String :=
  (percentEncode inFormSet text.toList).map fun c => if c = ' ' then '+' else c

def hexValue? (c : Char) : Option Nat :=
  if '0' ≤ c ∧ c ≤ '9' then some (c.toNat - '0'.toNat)
  else if 'a' ≤ c ∧ c ≤ 'f' then some (c.toNat - 'a'.toNat + 10)
  else if 'A' ≤ c ∧ c ≤ 'F' then some (c.toNat - 'A'.toNat + 10)
  else none

/-- The bytes that a text stands for. A percent sign without two digits stands for itself. -/
def percentDecode : List Char → List UInt8
  | [] => []
  | '%' :: high :: low :: rest =>
    match hexValue? high, hexValue? low with
    | some h, some l => UInt8.ofNat (h * 16 + l) :: percentDecode rest
    | _, _ => '%'.toNat.toUInt8 :: percentDecode (high :: low :: rest)
  | c :: rest => String.utf8EncodeChar c ++ percentDecode rest

/-- The text that a percent-encoded text stands for, if its bytes are UTF-8. -/
def decodedText? (text : List Char) : Option String :=
  String.fromUTF8? (percentDecode text).toByteArray

namespace Base64

/-- The character for a value below 64. -/
def digit (value : Nat) : Char :=
  if value < 26 then Char.ofNat ('A'.toNat + value)
  else if value < 52 then Char.ofNat ('a'.toNat + (value - 26))
  else if value < 62 then Char.ofNat ('0'.toNat + (value - 52))
  else if value = 62 then '+'
  else '/'

/-- The four characters for a group of 24 bits. -/
def group (bits : Nat) : List Char :=
  [digit (bits / 262144), digit (bits / 4096 % 64), digit (bits / 64 % 64), digit (bits % 64)]

def encode : List UInt8 → List Char
  | [] => []
  | [a] => (group (a.toNat * 65536)).take 2 ++ ['=', '=']
  | [a, b] => (group (a.toNat * 65536 + b.toNat * 256)).take 3 ++ ['=']
  | a :: b :: c :: rest => group (a.toNat * 65536 + b.toNat * 256 + c.toNat) ++ encode rest

end Base64

end SearchSql.Http
