import SearchSql.Proofs.Query.Units
import SearchSql.Proofs.Sql.Names
import SearchSql.Text.Split

/-!
# Queries as tokens

A query can be read back if its names need no quotes and its numbers are decimal. Its text is then a
sequence of tokens, `Query.tokens`, that follows the query as its text does: brackets stand around
AND, OR and the operands that are operators, and nowhere else. A statement may say more than the
text of a query does, and `Dropped` says what.
-/

namespace SearchSql

open Sql

/-- Tokens with brackets around them, if there are to be any. -/
def bracketTokens (bracketed : Bool) (tokens : List Token) : List Token :=
  if bracketed then .symbol "(" :: (tokens ++ [.symbol ")"]) else tokens

/-- What a statement may say beside its query, which has no place for it. -/
structure Dropped where
  /-- Whether DISTINCT stands behind SELECT. -/
  rows : Bool := false
  /-- The calls in which DISTINCT stands before the arguments. -/
  calls : Node → Bool := fun _ => false
  /-- The number behind OFFSET. -/
  offset : Option Nat := none

/-- Whether the arguments of a call are to be distinct. There have to be some. -/
def Dropped.isDistinct (dropped : Dropped) (name : String) (arguments : List Node) : Bool :=
  dropped.calls (.call name arguments) && !arguments.isEmpty

@[simp]
theorem Dropped.isDistinct_nil (dropped : Dropped) (name : String) :
    dropped.isDistinct name [] = false := Bool.and_false _

@[simp]
theorem Dropped.isDistinct_none (name : String) (arguments : List Node) :
    Dropped.isDistinct {} name arguments = false := rfl

mutual

/-- The tokens of a node that can be read back. The only raw text that is a token is the star. -/
def Node.tokens (dropped : Dropped) : Node → List Token
  | .conditional op left right =>
    .symbol "(" :: (left.tokens dropped ++ .word op :: right.tokens dropped ++ [.symbol ")"])
  | .operator op left right =>
    bracketTokens left.isOperator (left.tokens dropped) ++
      .symbol op :: bracketTokens right.isOperator (right.tokens dropped)
  | .call name arguments =>
    .word name :: .symbol "(" :: (distinctTokens (dropped.isDistinct name arguments) ++
      (commaTokens (Node.allTokens dropped arguments) ++ [.symbol ")"]))
  | .field path => pathTokens (Text.split '.' path)
  | .string text => [.string text]
  | .number text => [.number text false]
  | .bool true => [.word "true"]
  | .bool false => [.word "false"]
  | .null => [.word "NULL"]
  | .raw text => [.symbol text]
  | .negation _ | .isNull .. | .inList .. => []

def Node.allTokens (dropped : Dropped) : List Node → List (List Token)
  | [] => []
  | node :: rest => node.tokens dropped :: Node.allTokens dropped rest

end

theorem Node.allTokens_eq_map (dropped : Dropped) (nodes : List Node) :
    Node.allTokens dropped nodes = nodes.map (Node.tokens dropped) := by
  induction nodes with
  | nil => rfl
  | cons node rest ih => simp [Node.allTokens, ih]

theorem Node.allToSql_eq_map (nodes : List Node) : Node.allToSql nodes = nodes.map Node.toSql := by
  induction nodes with
  | nil => rfl
  | cons node rest ih => simp [Node.allToSql, ih]

/-- A node whose text can be read back. -/
inductive Node.Readable : Node → Prop
  | field (path : String) (names : ∀ name ∈ Text.split '.' path, IsName name) :
      Readable (.field path)
  | number (text : String) (decimal : IsDecimal text.toList) : Readable (.number text)
  | string (text : String) : Readable (.string text)
  | bool (value : Bool) : Readable (.bool value)
  | null : Readable .null
  | call (name : String) (arguments : List Node) (isName : IsName name)
      (readable : ∀ argument ∈ arguments, argument ≠ .raw "*" → Readable argument) :
      Readable (.call name arguments)
  | operator (op : String) (left right : Node) (isOp : op ∈ infixSymbols)
      (readableLeft : Readable left) (readableRight : Readable right) :
      Readable (.operator op left right)
  | conditional (op : String) (left right : Node) (isOp : op = "AND" ∨ op = "OR")
      (readableLeft : Readable left) (readableRight : Readable right) :
      Readable (.conditional op left right)

/-- What holds of the star and of all other arguments holds of all. -/
theorem Node.forall_argument {arguments : List Node} {motive : Node → Prop}
    (star : motive (.raw "*"))
    (others : ∀ argument ∈ arguments, argument ≠ .raw "*" → motive argument) :
    ∀ argument ∈ arguments, motive argument := by
  intro argument isArgument
  by_cases isStar : argument = .raw "*"
  · rw [isStar]
    exact star
  · exact others argument isArgument isStar

section Paths

variable {path : String}

theorem intercalate_concat {parts : List (List Char)} (nonempty : parts ≠ []) (last : List Char) :
    ['.'].intercalate (parts ++ [last]) = ['.'].intercalate parts ++ '.' :: last := by
  induction parts with
  | nil => exact absurd rfl nonempty
  | cons part parts ih =>
    cases parts with
    | nil => simp [List.intercalate_cons_cons]
    | cons next parts =>
      have later := ih (by simp)
      simp only [List.cons_append, List.intercalate_cons_cons] at later ⊢
      rw [later]
      simp

theorem toList_split (path : String) :
    ['.'].intercalate ((Text.split '.' path).map String.toList) = path.toList := by
  have isPath := congrArg String.toList (Text.intercalate_split path)
  rwa [String.toList_intercalate] at isPath

theorem writes_path (names : ∀ name ∈ Text.split '.' path, IsName name) :
    Writes path.toList (pathTokens (Text.split '.' path)) := by
  have writes := Writes.path (Text.split '.' path) fun name isMember => (names name isMember).plain
  rwa [toList_split] at writes

end Paths

theorem writes_bracketTokens {text : String} {tokens : List Token} (bracketed : Bool)
    (writes : Writes text.toList tokens) :
    Writes (bracketedIf bracketed text).toList (bracketTokens bracketed tokens) := by
  cases bracketed with
  | false => exact writes
  | true => simpa [bracketedIf, bracketTokens] using writes.bracketed

theorem Node.Readable.writes {node : Node} (readable : node.Readable) :
    Writes node.toSql.toList (node.tokens {}) := by
  induction readable with
  | field path names => exact writes_path names
  | number text decimal => simpa [Node.toSql, Node.tokens] using writes_number decimal
  | string text => simpa [Node.toSql, Node.tokens, sqlString] using Writes.string text.toList
  | bool value =>
    cases value with
    | true => exact Writes.word (by decide)
    | false => exact Writes.word (by decide)
  | null => exact Writes.word (by decide)
  | call name arguments isName _ ih =>
    have writesArguments : ∀ argument ∈ arguments,
        Writes argument.toSql.toList (argument.tokens {}) :=
      Node.forall_argument (Writes.infixSymbol (by decide)) ih
    have writes := (Writes.commas arguments _ _ writesArguments).call isName.plain
    simpa [Node.toSql, Node.tokens, Node.allToSql_eq_map, Node.allTokens_eq_map,
      Function.comp_def] using writes
  | operator op left right isOp _ _ ihLeft ihRight =>
    have writes := ((writes_bracketTokens left.isOperator ihLeft).spaced
      (Writes.infixSymbol isOp)).spaced (writes_bracketTokens right.isOperator ihRight)
    simpa [Node.toSql, Node.tokens] using writes
  | conditional op left right isOp _ _ ihLeft ihRight =>
    have isUpper : op.map Char.toUpper = op ∧ isPlainWord op.toList = true := by
      rcases isOp with rfl | rfl <;> decide +kernel
    have writesOp : Writes (op.map Char.toUpper).toList [.word op] := by
      simpa [isUpper.1] using Writes.word isUpper.2
    have writes := ((ihLeft.spaced writesOp).spaced ihRight).bracketed
    simpa [Node.toSql, Node.tokens] using writes

/-! ## Clauses -/

def labelTokens : Option String → List Token
  | some label => [.word "AS", .word label]
  | none => []

def SelectUnit.tokens (dropped : Dropped) : SelectUnit → List Token
  | .path _ basePath sub => pathTokens (Text.split '.' basePath ++ [sub.selection.name])
  | .single ⟨.call name arguments, label⟩ =>
    (Node.call name arguments).tokens dropped ++ labelTokens label
  | .single ⟨.wildcard, _⟩ => [.symbol "*"]
  | .single item => [.word item.selection.name]

/-- A term of a select list that can be read back. Only calls keep their labels. -/
inductive SelectUnit.Readable : SelectUnit → Prop
  | field (name : String) (isName : IsName name) : Readable (.single ⟨.field name, none⟩)
  | path (base sub : String) (names : ∀ name ∈ Text.split '.' base, IsName name)
      (isName : IsName sub) : Readable (.path ⟨.field base, none⟩ base ⟨.field sub, none⟩)
  | wildcard : Readable (.single ⟨.wildcard, none⟩)
  | call (name : String) (arguments : List Node) (label : Option String)
      (readable : (Node.call name arguments).Readable)
      (isName : ∀ name, label = some name → IsName name) :
      Readable (.single ⟨.call name arguments, label⟩)

/-- A query that can be read back: one that selects, with names and numbers that can be. -/
structure Query.Readable (query : Query) (units : List SelectUnit) : Prop where
  select : query.select = units.flatMap SelectUnit.items
  nonempty : units ≠ []
  units : ∀ unit ∈ units, unit.Readable
  index : ∀ name ∈ Text.split '.' query.index, IsName name
  predicate : ∀ node, query.predicate = some node → node.Readable
  group : ∀ node ∈ query.group, node.Readable
  order : ∀ term ∈ query.order, term.node.Readable
  selects : query.delete = false

def OrderTerm.tokens (dropped : Dropped) (term : OrderTerm) : List Token :=
  term.node.tokens dropped ++ [.word (if term.ascending then "ASC" else "DESC")]

/-- A clause with its terms separated by commas, left out when it has none. -/
def clauseTokens (keywords : List String) (terms : List (List Token)) : List Token :=
  if terms.isEmpty then [] else keywords.map Token.word ++ commaTokens terms

@[simp]
theorem clauseTokens_nil (keywords : List String) : clauseTokens keywords [] = [] := rfl

def numberTokens (number : Nat) : List Token := [.number (Nat.repr number) false]

/-- The tokens of the clauses that follow the index. -/
def Query.clauseTokens (query : Query) (dropped : Dropped) : List Token :=
  SearchSql.clauseTokens ["WHERE"] (query.predicate.toList.map (Node.tokens dropped)) ++
    SearchSql.clauseTokens ["GROUP", "BY"] (query.group.map (Node.tokens dropped)) ++
    SearchSql.clauseTokens ["ORDER", "BY"] (query.order.map (OrderTerm.tokens dropped)) ++
    SearchSql.clauseTokens ["LIMIT"] (query.limit.toList.map numberTokens) ++
    SearchSql.clauseTokens ["OFFSET"] (dropped.offset.toList.map numberTokens)

/-- The tokens of a query whose select list has these units. -/
def Query.tokens (query : Query) (dropped : Dropped) (units : List SelectUnit) : List Token :=
  .word "SELECT" :: (distinctTokens dropped.rows ++
    (commaTokens (units.map (SelectUnit.tokens dropped)) ++
      .word "FROM" :: (pathTokens (Text.split '.' query.index) ++ query.clauseTokens dropped)))

def SelectUnit.sql : SelectUnit → String
  | .path _ basePath sub => dotted basePath sub.selection.name
  | .single ⟨.call name arguments, label⟩ => labelledSql (callSql name arguments) label
  | .single item => item.selection.name

namespace SelectUnit.Readable

variable {unit : SelectUnit} {units : List SelectUnit}

theorem regular (readable : unit.Readable) : unit.Regular := by
  cases readable with
  | field | wildcard | call => simp [Regular]
  | path base sub => exact ⟨rfl, sub, rfl⟩

theorem writes (readable : unit.Readable) : Writes unit.sql.toList (unit.tokens {}) := by
  cases readable with
  | field name isName => simpa [sql, tokens, Selection.name] using Writes.word isName.plain
  | path base sub names isName =>
    have plain : ∀ name ∈ Text.split '.' base ++ [sub], isPlainWord name.toList = true := by
      intro name isMember
      rcases List.mem_append.1 isMember with inBase | isSub
      · exact (names name inBase).plain
      · rw [List.mem_singleton.1 isSub]
        exact isName.plain
    have writes := Writes.path _ plain
    rw [List.map_append, List.map_singleton,
      intercalate_concat (by simpa using Text.split_ne_nil base), toList_split] at writes
    simpa [sql, tokens, dotted, Selection.name] using writes
  | wildcard => exact Writes.infixSymbol (by decide)
  | call name arguments label readable isName =>
    have writes := readable.writes
    have isCall : (Node.call name arguments).toSql = callSql name arguments := by
      rw [Node.toSql, Node.allToSql_eq_map, callSql]
    rw [isCall] at writes
    cases label with
    | none => simpa [sql, tokens, labelledSql, labelTokens] using writes
    | some label =>
      have writesAs : Writes "AS".toList [.word "AS"] := Writes.word (by decide)
      have labelled := (writes.spaced writesAs).spaced (Writes.word (isName label rfl).plain)
      simpa [sql, tokens, labelledSql, labelTokens] using labelled

theorem projectionTerms_eq (readable : ∀ unit ∈ units, unit.Readable) :
    projectionTerms units = .ok (units.map sql) := by
  induction units with
  | nil => rfl
  | cons unit units ih =>
    rcases List.forall_mem_cons.1 readable with ⟨here, later⟩
    have terms := ih later
    cases here with
    | path | wildcard | call => simp [projectionTerms, terms, sql, Selection.name, Except.map]
    | field name isName =>
      have noDot : ∀ label rest, units ≠ .single ⟨.dot, label⟩ :: rest := by
        rintro label rest rfl
        exact (later _ List.mem_cons_self).regular rfl
      rw [projectionTerms, terms]
      · rfl
      · exact noDot

theorem projectionSql_eq (nonempty : units ≠ []) (readable : ∀ unit ∈ units, unit.Readable) :
    projectionSql (units.flatMap items) = .ok (", ".intercalate (units.map sql)) := by
  have notEmpty : (units.flatMap items).isEmpty = false := by
    cases units with
    | nil => exact absurd rfl nonempty
    | cons unit units => cases unit <;> rfl
  have isUnits := ofItems_flatMap_items fun unit isUnit => (readable unit isUnit).regular
  rw [projectionSql, notEmpty, isUnits, projectionTerms_eq readable]
  rfl

end SelectUnit.Readable

theorem writes_clause {α : Type} (keyword : String) (keywords : List String) (items : List α)
    (text : α → String) (itemTokens : α → List Token) {front : List Char} {tokens : List Token}
    (writesFront : Writes front tokens)
    (writesKeyword : Writes keyword.toList (keywords.map Token.word))
    (writes : ∀ item ∈ items, Writes (text item).toList (itemTokens item)) :
    Writes (front ++ (clauseSql keyword (items.map text)).toList)
      (tokens ++ clauseTokens keywords (items.map itemTokens)) := by
  cases items with
  | nil => simpa [clauseSql, clauseTokens] using writesFront
  | cons item items =>
    have clause := (writesFront.spaced writesKeyword).spaced
      (Writes.commas (item :: items) (fun item => (text item).toList) itemTokens writes)
    simpa [clauseSql, clauseTokens, Function.comp_def] using clause

theorem OrderTerm.writes {term : OrderTerm} (readable : term.node.Readable) :
    Writes term.toSql.toList (term.tokens {}) := by
  rcases term with ⟨node, ascending⟩
  cases ascending with
  | true =>
    have writesEnd : Writes "ASC".toList [.word "ASC"] := Writes.word (by decide)
    simpa [OrderTerm.toSql, OrderTerm.tokens] using readable.writes.spaced writesEnd
  | false =>
    have writesEnd : Writes "DESC".toList [.word "DESC"] := Writes.word (by decide)
    simpa [OrderTerm.toSql, OrderTerm.tokens] using readable.writes.spaced writesEnd

theorem isDecimal_repr (number : Nat) : IsDecimal (Nat.repr number).toList := by
  have digits : (Nat.repr number).toList.all Char.isDigit = true := by
    rw [Nat.toList_repr, List.all_eq_true]
    exact fun c isDigit => Nat.isDigit_of_mem_toDigits (by omega) (by omega) isDigit
  have nonempty : (Nat.repr number).toList ≠ [] := by
    rw [Nat.toList_repr]
    exact Nat.toDigits_ne_nil
  exact ⟨_, [], (List.append_nil _).symm, .whole _ nonempty digits, .absent⟩

theorem writes_natural (number : Nat) :
    Writes (Nat.repr number).toList (numberTokens number) := by
  have writes := writes_number (isDecimal_repr number)
  rwa [String.ofList_toList] at writes

namespace Query.Readable

variable {query : Query} {units : List SelectUnit}

theorem not_isAllBlank (readable : query.Readable units) :
    Text.isAllBlank query.index = false := by
  have isPath := toList_split query.index
  rcases isNames : Text.split '.' query.index with _ | ⟨name, names⟩
  · exact absurd isNames (Text.split_ne_nil query.index)
  · have plain := (readable.index name (by simp [isNames])).plain
    rw [isNames] at isPath
    rcases isChars : name.toList with _ | ⟨c, chars⟩
    · rw [isChars] at plain
      cases plain
    · rw [isChars] at plain
      have isFirst : ∃ more, query.index.toList = c :: more := by
        cases names with
        | nil => exact ⟨chars, by simpa [isChars] using isPath.symm⟩
        | cons next names =>
          simp only [List.map_cons, List.intercalate_cons_cons, isChars, List.cons_append] at isPath
          exact ⟨_, isPath.symm⟩
      rcases isFirst with ⟨more, isIndex⟩
      rw [Text.isAllBlank, isIndex, List.all_cons, (startsName_of_plain plain).noBlank,
        Bool.false_and]

/-- The query has a text, which is read as the tokens of the query. -/
theorem exists_toSql (readable : query.Readable units) :
    ∃ text, query.toSql = .ok text ∧ Token.scan text = some (query.tokens {} units) := by
  have projection := SelectUnit.Readable.projectionSql_eq readable.nonempty readable.units
  rw [← readable.select] at projection
  refine ⟨_, by
    rw [toSql, readable.not_isAllBlank, readable.selects, projection]
    rfl, ?_⟩
  have writesSelect : Writes "SELECT".toList [.word "SELECT"] := Writes.word (by decide)
  have writesFrom : Writes "FROM".toList [.word "FROM"] := Writes.word (by decide)
  have writesWhere : Writes "WHERE".toList [.word "WHERE"] := Writes.word (by decide)
  have writesGroup : Writes "GROUP".toList [.word "GROUP"] := Writes.word (by decide)
  have writesOrder : Writes "ORDER".toList [.word "ORDER"] := Writes.word (by decide)
  have writesBy : Writes "BY".toList [.word "BY"] := Writes.word (by decide)
  have writesLimit : Writes "LIMIT".toList [.word "LIMIT"] := Writes.word (by decide)
  have writesTerms := Writes.commas units (fun unit => unit.sql.toList) (SelectUnit.tokens {})
    fun unit isUnit => (readable.units unit isUnit).writes
  have front := ((writesSelect.spaced writesTerms).spaced writesFrom).spaced
    (writes_path readable.index)
  have withWhere := writes_clause "WHERE" ["WHERE"] query.predicate.toList Node.toSql
    (Node.tokens {}) front writesWhere
    fun node isNode => (readable.predicate node (Option.mem_toList.1 isNode)).writes
  have withGroup := writes_clause "GROUP BY" ["GROUP", "BY"] query.group Node.toSql
    (Node.tokens {}) withWhere (writesGroup.spaced writesBy)
    fun node isNode => (readable.group node isNode).writes
  have withOrder := writes_clause "ORDER BY" ["ORDER", "BY"] query.order OrderTerm.toSql
    (OrderTerm.tokens {}) withGroup (writesOrder.spaced writesBy)
    fun term isTerm => OrderTerm.writes (readable.order term isTerm)
  have whole := writes_clause "LIMIT" ["LIMIT"] query.limit.toList (fun limit => Nat.repr limit)
    numberTokens withOrder writesLimit
    fun limit _ => writes_natural limit
  have scanned := whole.scans _ (Nat.le_refl _)
  rw [Token.scan]
  simpa [clausesSql, tokens, clauseTokens, Function.comp_def] using scanned

end Query.Readable

end SearchSql
