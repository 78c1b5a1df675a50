import SearchSql.Http.Domain

/-!
# Hosts

The host of a URL is a domain in its plain text, an address of version 4 or 6, or, for schemes that
are not of the web, any text without the characters that separate the parts of a URL. A domain whose
last label is a number is an address of version 4 or nothing.
-/

namespace SearchSql.Http

inductive Host
  | domain (name : String)
  | address4 (value : Nat)
  | address6 (pieces : List Nat)
  | other (text : String)
deriving DecidableEq

namespace Host

def isForbidden (c : Char) : Bool := "\x00\t\n\r #/:<>?@[\\]^|".contains c

/-- What the plain text of a domain may not hold. -/
def isForbiddenInDomain (c : Char) : Bool :=
  isForbidden c || c.toNat < 0x20 || c == '%' || c.toNat == 0x7f

/-- A number written with digits of a base; none for a character that is no digit of it. -/
def number? (base : Nat) (digits : List Char) : Option Nat :=
  digits.foldlM
    (fun total c => (hexValue? c).bind fun digit =>
      if digit < base then some (total * base + digit) else none)
    0

/-- One part of an address of version 4: decimal, octal after `0`, hexadecimal after `0x`. -/
def part4? : List Char → Option Nat
  | [] => none
  | '0' :: 'x' :: digits => number? 16 digits
  | '0' :: 'X' :: digits => number? 16 digits
  | '0' :: digits => number? 8 digits
  | digits => number? 10 digits

/-- The parts between dots, without an empty one at the end. -/
def labels (name : List Char) : List (List Char) :=
  let parts := Text.splitChars '.' name
  if 1 < parts.length ∧ parts.getLast? = some [] then parts.dropLast else parts

def endsInNumber (name : List Char) : Bool :=
  match (labels name).getLast? with
  | some label => (!label.isEmpty && label.all Char.isDigit) || (part4? label).isSome
  | none => false

/-- The last part fills the bytes that the parts before it leave. -/
def address4? (name : List Char) : Option Nat := do
  let parts ← (labels name).mapM part4?
  let last ← parts.getLast?
  let leading := parts.dropLast
  if 4 < parts.length ∨ leading.any (255 < ·) ∨ Nat.pow 256 (4 - leading.length) ≤ last then none
  else
    some (leading.zipIdx.foldl (fun total part => total + part.1 * Nat.pow 256 (3 - part.2)) last)

/-- One piece of an address of version 6: one to four hexadecimal digits. -/
def piece6? (text : List Char) : Option Nat :=
  if text.isEmpty ∨ 4 < text.length then none else number? 16 text

/-- A byte in decimal without leading zeros. -/
def byte? (text : List Char) : Option Nat :=
  if text.isEmpty ∨ (text.head? = some '0' ∧ text.length ≠ 1) then none
  else (number? 10 text).filter (· ≤ 255)

/-- An address of version 4 at the end of one of version 6, as two pieces. -/
def dotted? (text : List Char) : Option (List Nat) := do
  match ← (Text.splitChars '.' text).mapM byte? with
  | [a, b, c, d] => some [a * 256 + b, c * 256 + d]
  | _ => none

/-- Pieces between colons; the last may be dotted when nothing follows them. -/
def pieces6? (final : Bool) (text : List Char) : Option (List Nat) :=
  if text.isEmpty then some []
  else do
    let parts := Text.splitChars ':' text
    let last ← parts.getLast?
    let leading ← parts.dropLast.mapM piece6?
    match piece6? last with
    | some piece => some (leading ++ [piece])
    | none => if final then (dotted? last).map (leading ++ ·) else none

/-- Cuts a text at the first two colons in a row. -/
def cutAtGap : List Char → Option (List Char × List Char)
  | ':' :: ':' :: rest => some ([], rest)
  | c :: rest => (cutAtGap rest).map fun (before, after) => (c :: before, after)
  | [] => none

/-- Eight pieces, or fewer around one gap that stands for zeros. -/
def address6? (text : List Char) : Option (List Nat) :=
  match cutAtGap text with
  | none => (pieces6? true text).filter (·.length == 8)
  | some (before, after) => do
    let front ← pieces6? false before
    let back ← pieces6? true after
    let given := front.length + back.length
    if given < 8 then some (front ++ List.replicate (8 - given) 0 ++ back) else none

def domain? (text : List Char) : Option Host := do
  let name ← Domain.plain? (← decodedText? text).toList
  if name.isEmpty ∨ name.any isForbiddenInDomain then none
  else if endsInNumber name then (address4? name).map .address4
  else some (.domain (String.ofList name))

/-- The host that a text writes. A host of the schemes of the web is not empty. -/
def ofText? (special : Bool) (text : List Char) : Option Host :=
  match text with
  | '[' :: rest =>
    if rest.getLast? = some ']' then (address6? rest.dropLast).map .address6 else none
  | text =>
    if special then domain? text
    else if text.any isForbidden then none
    else some (.other (percentEncode isControl text))

end Host

end SearchSql.Http
