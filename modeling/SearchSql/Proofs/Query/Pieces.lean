import SearchSql.Query.SqlText

/-!
# What the text of a predicate shows

The text of a predicate has brackets around AND, OR and the operands that are operators, and it has
no others. `Node.pieces` is the predicate as far as these brackets tell: a row of operands, of
operators and of tests, where whatever stands in brackets is one operand with a row of its own. How
far a NOT, an IS NULL or an IN reaches within a row is not told.

The text of a predicate is the text of its pieces, so predicates with the same pieces have the same
text.
-/

namespace SearchSql

/-- A part of a predicate that can be seen in its text. -/
inductive Piece
  | negation
  | infixed (op : String)
  | nullTest (negated : Bool)
  | membership (items : List (List Piece)) (negated : Bool)
  | field (path : String)
  | string (text : String)
  | number (text : String)
  | bool (value : Bool)
  | null
  | call (name : String) (arguments : List (List Piece))
  /-- An operator between its operands, in brackets. -/
  | group (inner : List Piece)
  /-- AND or OR between two predicates, in brackets. -/
  | conditional (op : String) (left right : List Piece)

mutual

/-- A predicate without the grouping that its text does not show. -/
def Node.pieces : Node → List Piece
  | .conditional op left right => [.conditional op left.pieces right.pieces]
  | .operator op left right =>
    (if left.isOperator then [.group left.pieces] else left.pieces) ++
      .infixed op :: (if right.isOperator then [.group right.pieces] else right.pieces)
  | .call name arguments => [.call name (Node.allPieces arguments)]
  | .field path => [.field path]
  | .string text => [.string text]
  | .number text => [.number text]
  | .bool value => [.bool value]
  | .null => [.null]
  | .negation node => .negation :: node.pieces
  | .isNull node negated => node.pieces ++ [.nullTest negated]
  | .inList node items negated => node.pieces ++ [.membership (Node.allPieces items) negated]
  | .raw text => [.field text]

def Node.allPieces : List Node → List (List Piece)
  | [] => []
  | node :: rest => node.pieces :: Node.allPieces rest

end

mutual

def Piece.chars : Piece → List Char
  | .negation => ['N', 'O', 'T', ' ']
  | .infixed op => ' ' :: op.toList ++ [' ']
  | .nullTest negated =>
    [' ', 'I', 'S', ' '] ++ (negationWord negated).toList ++ ['N', 'U', 'L', 'L']
  | .membership items negated =>
    ' ' :: (negationWord negated).toList ++ ['I', 'N', ' ', '('] ++ Piece.listChars items ++ [')']
  | .field path => path.toList
  | .string text => '\'' :: quoteDoubled text.toList ++ ['\'']
  | .number text => text.toList
  | .bool true => ['t', 'r', 'u', 'e']
  | .bool false => ['f', 'a', 'l', 's', 'e']
  | .null => ['N', 'U', 'L', 'L']
  | .call name arguments => name.toList ++ '(' :: Piece.listChars arguments ++ [')']
  | .group inner => '(' :: Piece.rowChars inner ++ [')']
  | .conditional op left right =>
    '(' :: Piece.rowChars left ++ ' ' :: (op.map Char.toUpper).toList ++ ' ' ::
      Piece.rowChars right ++ [')']

/-- Pieces one after the other. -/
def Piece.rowChars : List Piece → List Char
  | [] => []
  | piece :: rest => piece.chars ++ Piece.rowChars rest

/-- Rows with commas between them. -/
def Piece.listChars : List (List Piece) → List Char
  | [] => []
  | row :: rest => Piece.rowChars row ++ Piece.tailChars rest

/-- Rows with a comma before each. -/
def Piece.tailChars : List (List Piece) → List Char
  | [] => []
  | row :: rest => ',' :: ' ' :: Piece.rowChars row ++ Piece.tailChars rest

end

namespace Piece

@[simp]
theorem rowChars_append (first second : List Piece) :
    rowChars (first ++ second) = rowChars first ++ rowChars second := by
  induction first with
  | nil => rfl
  | cons piece rest ih => simp [rowChars, ih]

end Piece

theorem intercalate_rowChars (rows : List (List Piece)) :
    [',', ' '].intercalate (rows.map Piece.rowChars) = Piece.listChars rows := by
  cases rows with
  | nil => rfl
  | cons row rest =>
    induction rest generalizing row with
    | nil => simp [Piece.listChars, Piece.tailChars]
    | cons next rest ih =>
      have later := ih next
      simp only [List.map_cons, List.intercalate_cons_cons, Piece.listChars, Piece.tailChars]
        at later ⊢
      rw [later]
      simp

mutual

/-- The text of a predicate is the text of its pieces. -/
theorem Node.toList_toSql (node : Node) : node.toSql.toList = Piece.rowChars node.pieces := by
  cases node with
  | conditional op left right =>
    simp [Node.toSql, Node.pieces, Piece.rowChars, Piece.chars, left.toList_toSql,
      right.toList_toSql]
  | operator op left right =>
    cases leftOp : left.isOperator <;> cases rightOp : right.isOperator <;>
      simp [Node.toSql, Node.pieces, Piece.rowChars, Piece.chars, bracketedIf, leftOp, rightOp,
        left.toList_toSql, right.toList_toSql]
  | call name arguments =>
    simp [Node.toSql, Node.pieces, Piece.rowChars, Piece.chars, Node.map_toList_allToSql arguments,
      intercalate_rowChars]
  | bool value =>
    cases value <;> simp [Node.toSql, Node.pieces, Piece.rowChars, Piece.chars]
  | field | number | null | raw =>
    simp [Node.toSql, Node.pieces, Piece.rowChars, Piece.chars]
  | string text => simp [Node.toSql, Node.pieces, Piece.rowChars, Piece.chars, sqlString]
  | negation node =>
    simp [Node.toSql, Node.pieces, Piece.rowChars, Piece.chars, node.toList_toSql]
  | isNull node negated =>
    simp [Node.toSql, Node.pieces, Piece.rowChars, Piece.chars, node.toList_toSql]
  | inList node items negated =>
    simp [Node.toSql, Node.pieces, Piece.rowChars, Piece.chars, node.toList_toSql,
      Node.map_toList_allToSql items, intercalate_rowChars]

theorem Node.map_toList_allToSql (nodes : List Node) :
    (Node.allToSql nodes).map String.toList = (Node.allPieces nodes).map Piece.rowChars := by
  cases nodes with
  | nil => rfl
  | cons node rest =>
    simp [Node.allToSql, Node.allPieces, node.toList_toSql, Node.map_toList_allToSql rest]

end

theorem Node.toSql_eq_of_pieces {left right : Node} (same : left.pieces = right.pieces) :
    left.toSql = right.toSql := by
  rw [← String.toList_inj, left.toList_toSql, right.toList_toSql, same]

end SearchSql
