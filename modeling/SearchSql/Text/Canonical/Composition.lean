import SearchSql.Text.Canonical.Decomposition
import SearchSql.Text.Canonical.Order

/-!
# Canonical composition

Of the ways to write a text that are canonically equal one is preferred: every character is taken to
its parts, the marks are put in order, and what a mark composes with the character before it takes
the place of both.
-/

namespace SearchSql.Text.Canonical

/--
Composes what follows a character with it, where it can. The marks that could not be composed stand
between, the last one first; a mark of no smaller class than the next one keeps that from composing.
-/
def composedFrom (base : Char) (marks : List Char) : List Char → List Char
  | [] => base :: marks.reverse
  | c :: rest =>
    let isBlocked := marks.head?.any fun mark => combiningClass c ≤ combiningClass mark
    match if isBlocked then none else composed? base c with
    | some whole => composedFrom whole marks rest
    | none =>
      if combiningClass c = 0 then base :: (marks.reverse ++ composedFrom c [] rest)
      else composedFrom base (c :: marks) rest

/-- Composes a text whose marks are in order. Marks at the front have nothing to compose with. -/
def composed : List Char → List Char
  | [] => []
  | c :: rest => if combiningClass c = 0 then composedFrom c [] rest else c :: composed rest

/-- The preferred one of the texts that are canonically equal to a text. -/
def preferred (text : List Char) : List Char :=
  composed (ordered (text.flatMap decomposed))

end SearchSql.Text.Canonical
