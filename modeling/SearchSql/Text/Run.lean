import SearchSql.Text.Split

/-!
# Texts of consecutive characters

A table from characters to texts is given in runs: the first code point of a run, and the texts of
the characters from there on.
-/

namespace SearchSql.Text

structure Run where
  first : Nat
  texts : List (List Char)

namespace Run

/-- A run of characters that stand for one character each. -/
def singlesFrom (first : Nat) (letters : String) : Run :=
  ⟨first, letters.toList.map ([·])⟩

/-- The characters of a text, two by two. -/
def inPairs : List Char → List (List Char)
  | a :: b :: rest => [a, b] :: inPairs rest
  | _ => []

/-- A run of characters that stand for two characters each. -/
def pairsFrom (first : Nat) (letters : String) : Run :=
  ⟨first, inPairs letters.toList⟩

/-- A run of characters whose texts have bars between them. -/
def textsFrom (first : Nat) (texts : String) : Run :=
  ⟨first, splitChars '|' texts.toList⟩

def text? (run : Run) (c : Char) : Option (List Char) :=
  if run.first ≤ c.toNat then run.texts[c.toNat - run.first]? else none

/-- The text of a character in the first run that has one. -/
def lookUp? (runs : List Run) (c : Char) : Option (List Char) :=
  runs.findSome? (·.text? c)

/-- The first character that has the text. -/
def source? (runs : List Run) (text : List Char) : Option Char :=
  runs.findSome? fun run =>
    (run.texts.findIdx? (· == text)).map fun index => Char.ofNat (run.first + index)

end Run

end SearchSql.Text
