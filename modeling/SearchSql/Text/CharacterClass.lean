/-!
# Classes of characters

A class of characters is given by the closed ranges of code points in it, in increasing order. The
class of blank characters stands here, with their removal from both ends of a text; the modules
beside this one hold the larger classes that names, separators and quoted text are defined by.
-/

namespace SearchSql.Text

/-- Whether some of the closed ranges holds the code point. -/
def inRanges (ranges : List (Nat × Nat)) (codePoint : Nat) : Bool :=
  ranges.any fun (low, high) => low ≤ codePoint && codePoint ≤ high

theorem inRanges_iff (ranges : List (Nat × Nat)) (codePoint : Nat) :
    inRanges ranges codePoint = true ↔
      ∃ range ∈ ranges, range.1 ≤ codePoint ∧ codePoint ≤ range.2 := by
  simp [inRanges]

/-- The code points with the property White_Space. -/
def blankRanges : List (Nat × Nat) := [
  (0x0009, 0x000d), (0x0020, 0x0020), (0x0085, 0x0085), (0x00a0, 0x00a0), (0x1680, 0x1680),
  (0x2000, 0x200a), (0x2028, 0x2029), (0x202f, 0x202f), (0x205f, 0x205f), (0x3000, 0x3000)]

def isBlank (c : Char) : Bool :=
  inRanges blankRanges c.toNat

/-- Removes the characters that satisfy the predicate from both ends. -/
def trimMatches (drop : Char → Bool) (text : String) : String :=
  String.ofList (((text.toList.dropWhile drop).reverse.dropWhile drop).reverse)

/-- Removes blank characters from both ends. -/
def trim (text : String) : String :=
  trimMatches isBlank text

def isAllBlank (text : String) : Bool :=
  text.toList.all isBlank

end SearchSql.Text
