import SearchSql.Http.Domain.Direction
import SearchSql.Http.Domain.Joining
import SearchSql.Http.Domain.Punycode
import SearchSql.Text.Canonical.Composition

/-!
# Domains

A domain is made of labels with dots between them. It is known by its plain text: the characters are
mapped to what they stand for and composed, and labels in their form in ASCII are decoded.
-/

namespace SearchSql.Http.Domain

open SearchSql.Text

/-- What a label begins with that is written in ASCII only. -/
def encodedMark : List Char := ['x', 'n', '-', '-']

/-- A label that is what its form in ASCII says, of characters that stand for themselves. -/
def decodedLabel? (text : List Char) : Option (List Char) := do
  let label ← Punycode.decoded? text
  let isPlain := label.all fun c => !isDisallowed c && plainText c == Canonical.decomposed c
  if isPlain && label.any (0x80 ≤ ·.toNat) && Canonical.preferred label == label then some label
  else none

/-- The plain text of a label. -/
def label? (text : List Char) : Option (List Char) := do
  let label ←
    if encodedMark.isPrefixOf text then decodedLabel? (text.drop encodedMark.length) else some text
  if label.head?.any isMark || !joinersShow [] label then none else some label

/-- The labels of a domain. -/
def labels? (text : List Char) : Option (List (List Char)) := do
  if text.any isDisallowed then none
  let labels ← (splitChars '.' (Canonical.preferred (text.flatMap plainText))).mapM label?
  if labels.any runsLeft && !labels.all keepsDirection then none else some labels

/-- The plain text of a domain. -/
def plain? (text : List Char) : Option (List Char) := do
  return ['.'].intercalate (← labels? text)

end SearchSql.Http.Domain
