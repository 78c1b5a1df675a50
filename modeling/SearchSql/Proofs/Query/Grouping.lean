import SearchSql.Proofs.Query.Reading

/-!
# Which grouping the text of a query keeps

The text of a query tells its predicate up to its pieces, and no further: two predicates are written
the same if and only if they have the same pieces. What gets lost is how far a NOT, an IS NULL or an
IN reaches, as in `a = b IS NULL`.

Nothing gets lost among predicates that show their grouping, in which no operand of an operator is a
NOT, an IS NULL or an IN, and no operand of an IS NULL or an IN is a NOT. `Piece.regroup` finds such
a predicate from its pieces: a NOT reaches as far to the right as it can, and a test as far to the
left.
-/

namespace SearchSql

mutual

/-- Whether the names in a predicate can be told from everything else, and no part is raw text. -/
def Node.isReadable : Node → Bool
  | .conditional op left right =>
    (op == "AND" || op == "OR") && left.isReadable && right.isReadable
  | .operator op left right => isOperatorName op && left.isReadable && right.isReadable
  | .call name arguments => isFunctionName name && Node.allReadable arguments
  | .field path => isFieldPath path
  | .string _ => true
  | .number text => isNumeral text
  | .bool _ => true
  | .null => true
  | .negation node => node.isReadable
  | .isNull node _ => node.isReadable
  | .inList node items _ => node.isReadable && Node.allReadable items
  | .raw _ => false

def Node.allReadable : List Node → Bool
  | [] => true
  | node :: rest => node.isReadable && Node.allReadable rest

end

def Node.isNegation : Node → Bool
  | .negation _ => true
  | _ => false

/-- A NOT, an IS NULL or an IN. -/
def Node.isTest : Node → Bool
  | .negation _ => true
  | .isNull .. => true
  | .inList .. => true
  | _ => false

mutual

/-- Whether no NOT, IS NULL or IN is nested in a way that only brackets would show. -/
def Node.showsGrouping : Node → Bool
  | .conditional _ left right => left.showsGrouping && right.showsGrouping
  | .operator _ left right =>
    !left.isTest && !right.isTest && left.showsGrouping && right.showsGrouping
  | .call _ arguments => Node.allShowGrouping arguments
  | .negation node => node.showsGrouping
  | .isNull node _ => !node.isNegation && node.showsGrouping
  | .inList node items _ =>
    !node.isNegation && node.showsGrouping && Node.allShowGrouping items
  | .field _ => true
  | .string _ => true
  | .number _ => true
  | .bool _ => true
  | .null => true
  | .raw _ => true

def Node.allShowGrouping : List Node → Bool
  | [] => true
  | node :: rest => node.showsGrouping && Node.allShowGrouping rest

end

namespace Piece

mutual

theorem IsRow.append {first second : List Piece} (row : IsRow first) (tests : IsTests second) :
    IsRow (first ++ second) := by
  cases row with
  | negation operand => exact .negation (operand.append tests)
  | simple isSimple before => exact .simple isSimple (before.append tests)
  | string before => exact .string (before.append tests)
  | call isName each before => exact .call isName each (before.append tests)
  | group inside before => exact .group inside (before.append tests)
  | conditional joins left right before => exact .conditional joins left right (before.append tests)

theorem IsTests.append {first second : List Piece} (before : IsTests first)
    (tests : IsTests second) : IsTests (first ++ second) := by
  cases before with
  | nil => exact tests
  | nullTest before => exact .nullTest (before.append tests)
  | membership each before => exact .membership each (before.append tests)
  | infixed isOperator operand => exact .infixed isOperator (operand.append tests)

end

/-- An operand as it stands beside an operator. -/
theorem isRow_bracketed {node : Node} (isRow : IsRow node.pieces) :
    IsRow (if node.isOperator then [.group node.pieces] else node.pieces) := by
  split
  · exact .group isRow .nil
  · exact isRow

end Piece

mutual

theorem Node.isRow_pieces (node : Node) (readable : node.isReadable = true) :
    Piece.IsRow node.pieces := by
  cases node with
  | conditional op left right =>
    simp only [isReadable, Bool.and_eq_true, Bool.or_eq_true, beq_iff_eq] at readable
    exact .conditional readable.1.1 (left.isRow_pieces readable.1.2)
      (right.isRow_pieces readable.2) .nil
  | operator op left right =>
    simp only [isReadable, Bool.and_eq_true] at readable
    exact (Piece.isRow_bracketed (left.isRow_pieces readable.1.2)).append
      (.infixed readable.1.1 (Piece.isRow_bracketed (right.isRow_pieces readable.2)))
  | call name arguments =>
    simp only [isReadable, Bool.and_eq_true] at readable
    exact .call readable.1 (Node.isRow_of_mem_allPieces arguments readable.2) .nil
  | field path => exact .simple (.field readable) .nil
  | string text => exact .string .nil
  | number text => exact .simple (.number readable) .nil
  | bool value => exact .simple (.bool value) .nil
  | null => exact .simple .null .nil
  | negation node => exact .negation (node.isRow_pieces readable)
  | isNull node negated => exact (node.isRow_pieces readable).append (.nullTest .nil)
  | inList node items negated =>
    simp only [isReadable, Bool.and_eq_true] at readable
    exact (node.isRow_pieces readable.1).append
      (.membership (Node.isRow_of_mem_allPieces items readable.2) .nil)
  | raw text => cases readable

theorem Node.isRow_of_mem_allPieces (nodes : List Node) (readable : Node.allReadable nodes = true) :
    ∀ row ∈ Node.allPieces nodes, Piece.IsRow row := by
  cases nodes with
  | nil => exact nofun
  | cons node rest =>
    simp only [allReadable, Bool.and_eq_true] at readable
    intro row member
    rcases List.mem_cons.mp member with rfl | later
    · exact node.isRow_pieces readable.1
    · exact Node.isRow_of_mem_allPieces rest readable.2 row later

end

/-- The text of a predicate tells its pieces, and nothing else. -/
theorem Node.toSql_eq_toSql_iff {left right : Node} (leftReadable : left.isReadable = true)
    (rightReadable : right.isReadable = true) :
    left.toSql = right.toSql ↔ left.pieces = right.pieces := by
  refine ⟨fun same => ?_, Node.toSql_eq_of_pieces⟩
  rw [← String.toList_inj, left.toList_toSql, right.toList_toSql] at same
  exact Piece.row_eq_of_rowChars_eq (left.isRow_pieces leftReadable)
    (right.isRow_pieces rightReadable) same

namespace Piece

mutual

/-- The predicate that an operand stands for. -/
def toNode : Piece → Node
  | .field path => .field path
  | .string text => .string text
  | .number text => .number text
  | .bool value => .bool value
  | .null => .null
  | .call name arguments => .call name (regroupAll arguments)
  | .group inner => regroup inner
  | .conditional op left right => .conditional op (regroup left) (regroup right)
  | .negation => .null
  | .infixed _ => .null
  | .nullTest _ => .null
  | .membership .. => .null

/-- The predicate of a row, whose NOTs take all that follows and whose tests all that precedes. -/
def regroup : List Piece → Node
  | [] => .null
  | .negation :: rest => .negation (regroup rest)
  | first :: .infixed op :: second :: tests =>
    tested (.operator op first.toNode second.toNode) tests
  | first :: tests => tested first.toNode tests

/-- A predicate with the tests that stand behind it. -/
def tested : Node → List Piece → Node
  | node, [] => node
  | node, .nullTest negated :: rest => tested (.isNull node negated) rest
  | node, .membership items negated :: rest => tested (.inList node (regroupAll items) negated) rest
  | node, _ :: rest => tested node rest

def regroupAll : List (List Piece) → List Node
  | [] => []
  | row :: rest => regroup row :: regroupAll rest

end

def isOperand : Piece → Bool
  | .negation => false
  | .infixed _ => false
  | .nullTest _ => false
  | .membership .. => false
  | _ => true

def isTest : Piece → Bool
  | .nullTest _ => true
  | .membership .. => true
  | _ => false

/-- An operand, or an operator between two, with tests behind it. -/
inductive IsTested : List Piece → Prop
  | operand {first : Piece} {tests : List Piece} (isFirst : first.isOperand = true)
      (each : ∀ test ∈ tests, test.isTest = true) : IsTested (first :: tests)
  | operator {first second : Piece} {op : String} {tests : List Piece}
      (isFirst : first.isOperand = true) (each : ∀ test ∈ tests, test.isTest = true) :
      IsTested (first :: .infixed op :: second :: tests)

theorem isTest_of_mem_append {tests : List Piece} {test : Piece}
    (each : ∀ test ∈ tests, test.isTest = true) (isTest : test.isTest = true) :
    ∀ later ∈ tests ++ [test], later.isTest = true := by
  intro later member
  rcases List.mem_append.mp member with before | last
  · exact each later before
  · rw [List.mem_singleton.mp last]
    exact isTest

theorem IsTested.append {row : List Piece} {test : Piece} (rowTested : IsTested row)
    (isTest : test.isTest = true) : IsTested (row ++ [test]) := by
  cases rowTested with
  | operand isFirst each => exact .operand isFirst (isTest_of_mem_append each isTest)
  | operator isFirst each => exact .operator isFirst (isTest_of_mem_append each isTest)

theorem regroup_operand {first : Piece} {tests : List Piece} (isFirst : first.isOperand = true)
    (each : ∀ test ∈ tests, test.isTest = true) :
    regroup (first :: tests) = tested first.toNode tests := by
  cases tests with
  | nil => cases first <;> first | rfl | cases isFirst
  | cons test tests =>
    have isTest := each test List.mem_cons_self
    cases test with
    | nullTest | membership => cases first <;> first | rfl | cases isFirst
    | _ => cases isTest

theorem regroup_operator {first second : Piece} {op : String} (tests : List Piece)
    (isFirst : first.isOperand = true) :
    regroup (first :: .infixed op :: second :: tests) =
      tested (.operator op first.toNode second.toNode) tests := by
  cases first <;> first | rfl | cases isFirst

theorem tested_append (node : Node) (before after : List Piece) :
    tested node (before ++ after) = tested (tested node before) after := by
  induction before generalizing node with
  | nil => rfl
  | cons test before ih => cases test <;> exact ih _

/-- The last test of a row takes the whole row before it. -/
theorem regroup_append {row : List Piece} {test : Piece} (rowTested : IsTested row)
    (isTest : test.isTest = true) : regroup (row ++ [test]) = tested (regroup row) [test] := by
  cases rowTested with
  | operand isFirst each =>
    rw [regroup_operand isFirst each, ← tested_append]
    exact regroup_operand isFirst (isTest_of_mem_append each isTest)
  | operator isFirst each =>
    rw [regroup_operator _ isFirst, ← tested_append]
    exact regroup_operator _ isFirst

/-- What is neither NOT nor a test is one operand beside an operator. -/
theorem exists_operand {node : Node} (noTest : node.isTest = false) :
    ∃ piece : Piece, piece.isOperand = true ∧
      (if node.isOperator then [.group node.pieces] else node.pieces) = [piece] ∧
      (regroup node.pieces = node → piece.toNode = node) := by
  cases node with
  | negation | isNull | inList => cases noTest
  | _ => exact ⟨_, rfl, rfl, fun regroups => regroups⟩

theorem isTested_pieces (node : Node) (shows : node.showsGrouping = true)
    (noNegation : node.isNegation = false) : IsTested node.pieces := by
  cases node with
  | negation => cases noNegation
  | operator op left right =>
    simp only [Node.showsGrouping, Bool.and_eq_true, Bool.not_eq_true'] at shows
    rcases exists_operand shows.1.1.1 with ⟨first, isFirst, leftPieces, _⟩
    rcases exists_operand shows.1.1.2 with ⟨second, _, rightPieces, _⟩
    rw [Node.pieces, leftPieces, rightPieces]
    exact .operator isFirst nofun
  | isNull node negated =>
    simp only [Node.showsGrouping, Bool.and_eq_true, Bool.not_eq_true'] at shows
    exact (isTested_pieces node shows.2 shows.1).append rfl
  | inList node items negated =>
    simp only [Node.showsGrouping, Bool.and_eq_true, Bool.not_eq_true'] at shows
    exact (isTested_pieces node shows.1.2 shows.1.1).append rfl
  | _ => exact .operand rfl nofun

mutual

/-- A predicate that shows its grouping is found again from its pieces. -/
theorem regroup_pieces (node : Node) (readable : node.isReadable = true)
    (shows : node.showsGrouping = true) : regroup node.pieces = node := by
  cases node with
  | conditional op left right =>
    simp only [Node.isReadable, Bool.and_eq_true] at readable
    simp only [Node.showsGrouping, Bool.and_eq_true] at shows
    change Node.conditional op (regroup left.pieces) (regroup right.pieces) = _
    rw [regroup_pieces left readable.1.2 shows.1, regroup_pieces right readable.2 shows.2]
  | operator op left right =>
    simp only [Node.isReadable, Bool.and_eq_true] at readable
    simp only [Node.showsGrouping, Bool.and_eq_true, Bool.not_eq_true'] at shows
    -- neither operand is a test, so the operator stands between two single pieces
    rcases exists_operand shows.1.1.1 with ⟨first, isFirst, leftPieces, firstNode⟩
    rcases exists_operand shows.1.1.2 with ⟨second, _, rightPieces, secondNode⟩
    rw [Node.pieces, leftPieces, rightPieces]
    refine (regroup_operator [] isFirst).trans ?_
    rw [firstNode (regroup_pieces left readable.1.2 shows.1.2),
      secondNode (regroup_pieces right readable.2 shows.2)]
    rfl
  | call name arguments =>
    simp only [Node.isReadable, Bool.and_eq_true] at readable
    change Node.call name (regroupAll (Node.allPieces arguments)) = _
    rw [regroupAll_allPieces arguments readable.2 shows]
  | negation node =>
    change Node.negation (regroup node.pieces) = _
    rw [regroup_pieces node readable shows]
  | isNull node negated =>
    simp only [Node.showsGrouping, Bool.and_eq_true, Bool.not_eq_true'] at shows
    rw [Node.pieces, regroup_append (isTested_pieces node shows.2 shows.1) rfl,
      regroup_pieces node readable shows.2]
    rfl
  | inList node items negated =>
    simp only [Node.isReadable, Bool.and_eq_true] at readable
    simp only [Node.showsGrouping, Bool.and_eq_true, Bool.not_eq_true'] at shows
    rw [Node.pieces, regroup_append (isTested_pieces node shows.1.2 shows.1.1) rfl,
      regroup_pieces node readable.1 shows.1.2, tested, tested,
      regroupAll_allPieces items readable.2 shows.2]
  | raw => cases readable
  | _ => rfl

theorem regroupAll_allPieces (nodes : List Node) (readable : Node.allReadable nodes = true)
    (show' : Node.allShowGrouping nodes = true) : regroupAll (Node.allPieces nodes) = nodes := by
  cases nodes with
  | nil => rfl
  | cons node rest =>
    simp only [Node.allReadable, Bool.and_eq_true] at readable
    simp only [Node.allShowGrouping, Bool.and_eq_true] at show'
    rw [Node.allPieces, regroupAll, regroup_pieces node readable.1 show'.1,
      regroupAll_allPieces rest readable.2 show'.2]

end

end Piece

theorem Node.eq_of_pieces_eq {left right : Node} (leftReadable : left.isReadable = true)
    (rightReadable : right.isReadable = true) (leftShows : left.showsGrouping = true)
    (rightShows : right.showsGrouping = true) (same : left.pieces = right.pieces) :
    left = right := by
  rw [← Piece.regroup_pieces left leftReadable leftShows, same,
    Piece.regroup_pieces right rightReadable rightShows]

namespace Query

theorem clausesSql_of_predicate (query : Query) (node : Node) :
    ({ query with predicate := some node } : Query).clausesSql =
      " WHERE " ++ node.toSql ++ ({ query with predicate := none } : Query).clausesSql := by
  simp only [clausesSql, clauseSql, Option.toList_some, Option.toList_none, List.map_cons,
    List.map_nil, List.isEmpty_cons, List.isEmpty_nil, if_true, String.intercalate_singleton,
    String.empty_append, Bool.false_eq_true, if_false, String.append_assoc]
  rfl

/-- What a query writes around its predicate is the same for every predicate. -/
theorem exists_around_predicate {query : Query} {node : Node} {text : String}
    (writes : ({ query with predicate := some node } : Query).toSql = .ok text) :
    ∃ front back : String, ∀ node : Node,
      ({ query with predicate := some node } : Query).toSql =
        .ok (front ++ node.toSql ++ back) := by
  unfold toSql at writes ⊢
  simp only [clausesSql_of_predicate] at writes ⊢
  cases blank : Text.isAllBlank query.index with
  | true => simp [blank] at writes
  | false =>
    cases delete : query.delete with
    | true =>
      refine ⟨"DELETE FROM " ++ query.index ++ " WHERE ",
        ({ query with predicate := none } : Query).clausesSql, fun node => ?_⟩
      simp only [Bool.false_eq_true, if_false, if_true, String.append_assoc]
      rfl
    | false =>
      cases projects : projectionSql query.select with
      | error cause => simp [blank, delete, projects, Except.map] at writes
      | ok projection =>
        refine ⟨"SELECT " ++ projection ++ " FROM " ++ query.index ++ " WHERE ",
          ({ query with predicate := none } : Query).clausesSql, fun node => ?_⟩
        simp only [Bool.false_eq_true, if_false, Except.map, String.append_assoc]
        rfl

/--
Two queries that differ in their predicates alone are written the same if and only if the predicates
have the same pieces, and if both predicates show their grouping, then only if they are the same.
-/
theorem toSql_eq_iff_pieces {query : Query} {left right : Node} {text : String}
    (writes : ({ query with predicate := some left } : Query).toSql = .ok text)
    (leftReadable : left.isReadable = true) (rightReadable : right.isReadable = true) :
    (({ query with predicate := some left } : Query).toSql =
        ({ query with predicate := some right } : Query).toSql ↔ left.pieces = right.pieces) ∧
      (left.showsGrouping = true → right.showsGrouping = true → left.pieces = right.pieces →
        left = right) := by
  refine ⟨?_, Node.eq_of_pieces_eq leftReadable rightReadable⟩
  rcases exists_around_predicate writes with ⟨front, back, around⟩
  rw [around, around, Except.ok.injEq, ← Node.toSql_eq_toSql_iff leftReadable rightReadable,
    String.append_left_inj, String.append_right_inj]

/-- An IS NULL beside an operator is written like one around it. -/
theorem toSql_eq_of_regrouped :
    let left : Node := .operator "=" (.field "a") (.isNull (.field "b") false)
    let right : Node := .isNull (.operator "=" (.field "a") (.field "b")) false
    left ≠ right ∧ left.isReadable = true ∧ right.isReadable = true ∧
      ({ index := "points", predicate := some left } : Query).toSql =
        .ok "SELECT * FROM points WHERE a = b IS NULL" ∧
      ({ index := "points", predicate := some right } : Query).toSql =
        .ok "SELECT * FROM points WHERE a = b IS NULL" :=
  ⟨nofun, by decide, by decide, by rfl, by rfl⟩

/-- A predicate that shows its grouping, and another with a test around it. -/
theorem toSql_ne_of_tested :
    ({ index := "points", predicate := some (.operator "=" (.field "a") (.number "1")) } :
        Query).toSql ≠
      ({ index := "points",
         predicate := some (.isNull (.operator "=" (.field "a") (.number "1")) true) } :
        Query).toSql := by
  intro same
  have exactly := @toSql_eq_iff_pieces { index := "points" }
    (.operator "=" (.field "a") (.number "1"))
    (.isNull (.operator "=" (.field "a") (.number "1")) true)
    "SELECT * FROM points WHERE a = 1" (by rfl) (by decide) (by decide)
  cases exactly.2 (by decide) (by decide) (exactly.1.mp same)

end Query

end SearchSql
