import SearchSql.Http.Encoding

/-!
# Labels in ASCII

A label of a domain that is not ASCII has a form in ASCII: its ASCII characters, a hyphen, and
numbers that say which other characters are put in between, and where. The numbers count on from
each other through all places for all code points in order; their digits have a weight that follows
the size of the numbers before.
-/

namespace SearchSql.Http.Domain

namespace Punycode

/-- The value of a digit: the letters come first, and behind them the digits. -/
def digit? (c : Char) : Option Nat :=
  if c.isDigit then some (c.toNat - '0'.toNat + 26)
  else if c.isAlpha then some (c.toLower.toNat - 'a'.toNat)
  else none

/-- The number of digits there are. -/
def base : Nat := 36

/-- A digit below this value ends a number. -/
def threshold (bias place : Nat) : Nat := max 1 (min 26 (place - bias))

/-- The difference is scaled down until the digits tell it apart. -/
def scale (difference places : Nat) : Nat × Nat :=
  if 455 < difference then scale (difference / (base - 1)) (places + base)
  else (difference, places)
termination_by difference
decreasing_by exact Nat.div_lt_self (by omega) (by decide)

/-- How the digits of the next number are weighed, after a difference in a text of so many. -/
def adapted (difference length : Nat) (isFirst : Bool) : Nat :=
  let halved := if isFirst then difference / 700 else difference / 2
  let (rest, places) := scale (halved + halved / length) 0
  places + base * rest / (rest + 38)

/-- The greatest number that is read. -/
def largest : Nat := 0xffffffff

/-- A number whose digits begin at a place with a weight, added to a number, and what follows it. -/
def number? (bias place weight total : Nat) : List Char → Option (Nat × List Char)
  | [] => none
  | c :: rest =>
    match digit? c with
    | none => none
    | some digit =>
      let total := total + digit * weight
      let further := weight * (base - threshold bias place)
      if largest < total then none
      else if digit < threshold bias place then some (total, rest)
      else if largest < further then none
      else number? bias (place + base) further total rest

theorem length_lt_of_number? {bias place weight total : Nat} {text : List Char}
    {found : Nat × List Char} (read : number? bias place weight total text = some found) :
    found.2.length < text.length := by
  induction text generalizing place weight total with
  | nil => simp [number?] at read
  | cons c rest ih =>
    rw [number?] at read
    split at read
    · simp at read
    · simp only at read
      split at read
      · simp at read
      · split at read
        · cases read
          simp
        · split at read
          · simp at read
          · have := ih read
            simp only [List.length_cons]
            omega

/-- Puts characters into a text, by the numbers. -/
def inserted? (bias codePoint index : Nat) (text digits : List Char) : Option (List Char) :=
  match digits with
  | [] => some text
  | c :: more =>
    match _read : number? bias base 1 index (c :: more) with
    | none => none
    | some (total, rest) =>
      let length := text.length + 1
      let codePoint := codePoint + total / length
      let place := total % length
      if codePoint.isValidChar then
        inserted? (adapted (total - index) length (index == 0)) codePoint (place + 1)
          (text.take place ++ Char.ofNat codePoint :: text.drop place) rest
      else none
termination_by digits.length
decreasing_by exact length_lt_of_number? _read

/-- What stands before the last hyphen, and what follows it. -/
def cutAtHyphen (text : List Char) : List Char × List Char :=
  let backwards := text.reverse
  (((backwards.dropWhile (· != '-')).drop 1).reverse, (backwards.takeWhile (· != '-')).reverse)

/-- The label that a text in ASCII stands for. Without a plain part there is no hyphen either. -/
def decoded? (text : List Char) : Option (List Char) :=
  let (plain, digits) := cutAtHyphen text
  inserted? 72 0x80 0 plain (if plain.isEmpty then text else digits)

end Punycode

end SearchSql.Http.Domain
