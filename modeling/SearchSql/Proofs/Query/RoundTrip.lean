import SearchSql.Proofs.Query.Expressions
import SearchSql.Proofs.Sql.Clauses
import SearchSql.Query.OfSql

/-!
# Queries that are read back from their text

The text of a query is read as the query itself, or refused where its trees are too high for the
depth to which SQL may be nested. The terms of each clause are read one by one with what
`Node.Readable.isRead` says of their nodes; the clauses that a query tree does not have are found to
be left out. All this is shown of every statement for the query, whatever it says beside it
(`Dropped`); the text of the query is the statement that says nothing more.
-/

namespace SearchSql

open Sql Sql.Parser

/-! ## Select lists -/

namespace SelectUnit

/-- The term of a select list that a unit is read as. -/
def toTerm (dropped : Dropped) : SelectUnit → SelectTerm
  | .path _ basePath sub => .value (pathExpr (Text.split '.' basePath ++ [sub.selection.name])) none
  | .single ⟨.call name arguments, label⟩ =>
    .value ((Node.call name arguments).toExpr dropped) (label.map fun label => ⟨label, none⟩)
  | .single ⟨.wildcard, _⟩ => .wildcard ""
  | .single item => .value (.identifier ⟨item.selection.name, none⟩) none

/-- The height of what a unit selects. -/
def height : SelectUnit → Nat
  | .path .. => 1
  | .single item => item.selection.toNode.height

end SelectUnit

section Paths

variable {parts : List String} {sub base : String}

theorem pathExpr_concat (nonempty : parts ≠ []) :
    pathExpr (parts ++ [sub]) = .compound ((parts ++ [sub]).map fun name => ⟨name, none⟩) := by
  rcases parts with _ | ⟨first, _ | ⟨second, more⟩⟩
  · exact absurd rfl nonempty
  · rfl
  · rfl

/-- The last of several names is what is selected of the field that the others name. -/
theorem itemsOf_compound (nonempty : parts ≠ []) (isPath : ".".intercalate parts = base) :
    itemsOf (.compound ((parts ++ [sub]).map fun name => ⟨name, none⟩)) none =
      .ok [⟨.field base, none⟩, ⟨.dot, none⟩, ⟨.field sub, none⟩] := by
  have isBase : Identifier.path (parts.map fun name => ⟨name, none⟩) = base := by
    rw [Identifier.path, List.map_map, ← isPath]
    exact congrArg _ (List.map_id _)
  have reversed : ((parts ++ [sub]).map fun name => (⟨name, none⟩ : Identifier)).reverse =
      ⟨sub, none⟩ :: (parts.map fun name => ⟨name, none⟩).reverse := by simp
  rcases isBefore : (parts.map fun name => (⟨name, none⟩ : Identifier)).reverse with _ | ⟨last, more⟩
  · simp [nonempty] at isBefore
  · rw [isBefore] at reversed
    have isParts : (last :: more).reverse = parts.map fun name => ⟨name, none⟩ := by
      rw [← isBefore, List.reverse_reverse]
    simp only [itemsOf, reversed, isParts, isBase]

theorem forall_isName_concat (names : ∀ name ∈ parts, IsName name) (isName : IsName sub) :
    ∀ name ∈ parts ++ [sub], IsName name := by
  intro name isMember
  rcases List.mem_append.1 isMember with isPart | isLast
  · exact names name isPart
  · rw [List.mem_singleton.1 isLast]
    exact isName

end Paths

theorem upperLetters_of_toLower {c letter : Char} (isLetter : letter ∈ ['f', 'r', 'o', 'm'])
    (isLower : c.toLower = letter) : upperLetters c = [letter.toUpper] := by
  have isCase : c = letter ∨ c = letter.toUpper := by
    unfold Char.toLower at isLower
    split at isLower
    next isUpper =>
      right
      have isValue := congrArg Char.val isLower
      simp only [List.mem_cons, List.not_mem_nil, or_false] at isLetter
      rcases isLetter with rfl | rfl | rfl | rfl
      all_goals
        apply Char.ext
        simp at isValue ⊢
        grind
    next => exact .inl isLower
  simp only [List.mem_cons, List.not_mem_nil, or_false] at isLetter
  rcases isCase with rfl | rfl <;> rcases isLetter with rfl | rfl | rfl | rfl <;> rfl

/-- FROM is no name of a column, however it is written. -/
theorem lower_ne_from {name : String} (isName : IsName name) : name.map Char.toLower ≠ "from" := by
  intro isFrom
  have isChars : name.toList.map Char.toLower = ['f', 'r', 'o', 'm'] := by
    rw [← String.toList_map, isFrom]
    rfl
  rcases isList : name.toList with _ | ⟨a, _ | ⟨b, _ | ⟨c, _ | ⟨d, more⟩⟩⟩⟩
  all_goals rw [isList] at isChars
  all_goals
    simp only [List.map_cons, List.map_nil, List.cons.injEq, List.map_eq_nil_iff, reduceCtorEq,
      and_false] at isChars
  rcases isChars with ⟨isF, isR, isO, isM, rfl⟩
  apply isName.free
  have isForm : keywordForm name = "FROM" := by
    simp only [keywordForm, isList, List.flatMap_cons, List.flatMap_nil,
      upperLetters_of_toLower (by decide) isF, upperLetters_of_toLower (by decide) isR,
      upperLetters_of_toLower (by decide) isO, upperLetters_of_toLower (by decide) isM]
    rfl
  rw [isForm]
  decide

namespace SelectUnit.Readable

variable {dropped : Dropped} {unit : SelectUnit}

theorem plain (readable : unit.Readable) : Plain (unit.tokens dropped) := by
  cases readable with
  | field name isName => simp [tokens]
  | path base sub names isName => exact plain_pathTokens _
  | wildcard => simp [tokens]
  | call name arguments label readable isName =>
    have plain : Plain ((Node.call name arguments).tokens dropped) := readable.plain
    cases label <;> simp [tokens, labelTokens, plain]

/-- A term of a select list stands for the items of its unit. -/
theorem itemsOfTerm_toTerm (readable : unit.Readable) :
    itemsOfTerm (unit.toTerm dropped) = .ok unit.items := by
  cases readable with
  | field name isName => rfl
  | path base sub names isName =>
    have nonempty := Text.split_ne_nil base
    have isPath := Text.intercalate_split base
    have isTerm : (SelectUnit.path ⟨.field base, none⟩ base ⟨.field sub, none⟩).toTerm dropped =
        .value (.compound ((Text.split '.' base ++ [sub]).map fun name => ⟨name, none⟩)) none := by
      rw [toTerm, Selection.name, pathExpr_concat nonempty]
    rw [isTerm]
    exact itemsOf_compound nonempty isPath
  | wildcard => rfl
  | call name arguments label readable isName =>
    have same : ((Node.call name arguments).toExpr dropped).toNode = _ := readable.toNode_toExpr
    simp only [Node.toExpr, Expr.toNode, Expr.toNodes_eq_map, Node.call.injEq] at same
    have isLabel : (label.map fun label => (⟨label, none⟩ : Identifier)).map Identifier.value =
        label := by
      cases label <;> rfl
    rw [toTerm, itemsOfTerm, isLabel, Node.toExpr, itemsOf, same.1, same.2]
    rfl

theorem leads (readable : unit.Readable) {rest : List Token}
    (begins : Begins operandWords operandMarks rest) :
    Leads ["(", "*"] (unit.tokens dropped ++ rest) := by
  cases readable with
  | field name isName => exact .of_word (.inr isName.free)
  | path base sub names isName =>
    exact (leads_path _ (by simp) (forall_isName_concat names isName) begins).1
  | wildcard => exact .of_symbol (by decide)
  | call name arguments label readable isName =>
    cases readable with
    | call name arguments isName => exact .of_word (.inr isName.free)

theorem reads (readable : unit.Readable) {g : Grammar} {steps depth : Nat}
    (isBelow : g.below = Level.within steps (depth + 1)) (enough : 3 ≤ steps)
    (room : (unit.tokens dropped).length < steps) {rest : List Token}
    (begins : Begins ["FROM"] [","] rest) (plain : Plain rest) :
    Reads g.selectTerm (unit.tokens dropped ++ rest) (unit.toTerm dropped) rest
      (unit.height ≤ depth + 1) := by
  have noLabel : label? Keyword.endsColumn rest = some (none, rest) :=
    label?_absent begins (by decide) (by decide)
  have behind : Begins expressionWords [",", ")"] rest := begins.mono (by decide) (by decide)
  have readsPath : ∀ names : List String, names ≠ [] → (∀ name ∈ names, IsName name) →
      names.length < steps → Reads g.wildcardOrExpression (pathTokens names ++ rest)
        (pathExpr names) rest (unit.height ≤ depth + 1) := by
    intro names nonempty areNames shorter
    rcases leads_path _ nonempty areNames behind.behindTerm.behindOperand with ⟨leads, noPath⟩
    apply Grammar.reads_wildcardOrExpression leads noPath
    rw [Grammar.expression, isBelow]
    exact Node.reads_path nonempty areNames shorter behind plain
  cases readable with
  | field name isName =>
    have reads := readsPath [name] (by simp) (by simpa using isName) (by simp; omega)
    have isColumn : (guard ((name.map Char.toLower != "from") = true) : Parser Unit) rest =
        some ((), rest) := by
      rw [guard_apply, if_pos (by simpa using lower_ne_from isName)]
    exact .bind reads (.skip isColumn (.skip noLabel (.of_eq rfl)))
  | path base sub names isName =>
    have nonempty := Text.split_ne_nil base
    have shorter := length_le_pathTokens (Text.split '.' base ++ [sub])
    simp only [tokens, Selection.name] at room
    have reads := readsPath (Text.split '.' base ++ [sub]) (by simp)
      (forall_isName_concat names isName) (by omega)
    simp only [toTerm, Selection.name]
    rw [pathExpr_concat nonempty] at reads ⊢
    exact .bind reads (.skip noLabel (.of_eq rfl))
  | wildcard => exact .skip rfl (.skip (Grammar.wildcardOptions_absent begins) (.of_eq rfl))
  | call name arguments label readable isName =>
    have roomCall : ((Node.call name arguments).tokens dropped).length < steps := by
      simp only [tokens, List.length_append] at room
      omega
    have isRead := readable.isRead enough roomCall
    have plainLabel : Plain (labelTokens label ++ rest) := by
      cases label <;> simp [labelTokens, plain]
    have behindCall : Begins expressionWords [",", ")"] (labelTokens label ++ rest) := by
      cases label with
      | none => exact behind
      | some label => exact .word "AS" _ (by decide)
    have isLabel : label? Keyword.endsColumn (labelTokens label ++ rest) =
        some (label.map fun label => ⟨label, none⟩, rest) := by
      cases label with
      | none => exact noLabel
      | some label => rfl
    rcases readable.leads behindCall.behindTerm.behindOperand with ⟨leads, noPath⟩
    have reads := Grammar.reads_wildcardOrExpression leads noPath
      (isRead.reads enough isBelow behindCall plainLabel)
    rw [tokens, List.append_assoc]
    exact .bind reads (.skip isLabel (.of_eq rfl))

end SelectUnit.Readable

/-! ## Clauses -/

theorem plain_clauseTokens (keywords : List String) {terms : List (List Token)}
    (plain : ∀ term ∈ terms, Plain term) : Plain (clauseTokens keywords terms) := by
  have plainWords : Plain (keywords.map Token.word) := by
    simp [Plain]
  unfold clauseTokens
  split
  next => exact plain_nil
  next => exact plain_append.2 ⟨plainWords, plain_commaTokens plain⟩

theorem plain_numberClause (keywords : List String) (number : Option Nat) :
    Plain (clauseTokens keywords (number.toList.map numberTokens)) :=
  plain_clauseTokens _ (by simp [Plain, numberTokens])

theorem length_le_clauseTokens (keywords : List String) (terms : List (List Token)) :
    (commaTokens terms).length ≤ (clauseTokens keywords terms).length := by
  cases terms with
  | nil => exact Nat.le_refl _
  | cons term terms => simp [clauseTokens]

/-- A clause begins with its keyword, or it is left out. -/
theorem begins_clauseTokens {word : String} {words : List String} {rest : List Token}
    (isForm : keywordForm word = word) (others : List String) (terms : List (List Token))
    (begins : Begins words [] rest) :
    Begins (word :: words) [] (clauseTokens (word :: others) terms ++ rest) := by
  cases terms with
  | nil => exact begins.mono (List.subset_cons_self _ _) (List.nil_subset _)
  | cons term terms => exact .word word _ (by simp [isForm])

theorem begins_offsetClause (offset : Option Nat) :
    Begins ["OFFSET"] [] (clauseTokens ["OFFSET"] (offset.toList.map numberTokens)) := by
  cases offset with
  | none => exact .nil
  | some rows => exact .word "OFFSET" _ (by decide)

/-- The key of an order that a term is read as. -/
def OrderTerm.toKey (dropped : Dropped) (term : OrderTerm) : OrderKey where
  expr := term.node.toExpr dropped
  ascending := term.ascending
  text := (term.node.toExpr dropped).text ++ (if term.ascending then " ASC" else " DESC")

section Clauses

variable (dropped : Dropped) {g : Grammar} {steps depth : Nat} {rest : List Token}

theorem reads_select {units : List SelectUnit} (readable : ∀ unit ∈ units, unit.Readable)
    (nonempty : units ≠ []) (isSteps : g.steps = steps)
    (isBelow : g.below = Level.within steps (depth + 1)) (enough : 3 ≤ steps)
    (room : (commaTokens (units.map (SelectUnit.tokens dropped))).length < steps)
    (begins : Begins ["FROM"] [] rest) (plain : Plain rest) :
    Reads (g.commas g.selectTerm) (commaTokens (units.map (SelectUnit.tokens dropped)) ++ rest)
      (units.map (SelectUnit.toTerm dropped)) rest (∀ unit ∈ units, unit.height ≤ depth + 1) :=
  Grammar.reads_commas isSteps room (fun unit isUnit => (readable unit isUnit).plain)
    (fun unit isUnit shorter _ => (readable unit isUnit).reads isBelow enough shorter) nonempty
    (by decide) begins plain

theorem tables_path {names : List String} (nonempty : names ≠ [])
    (areNames : ∀ name ∈ names, IsName name) (room : names.length < g.steps)
    (begins : Begins clauseWords [] rest) :
    ∃ before, g.tables (pathTokens names ++ rest) =
      some ([⟨{ table := some (names.map fun name => ⟨name, none⟩), before }, []⟩], rest) := by
  cases names with
  | nil => exact absurd rfl nonempty
  | cons name names =>
    rcases Grammar.table_path name names (areNames name List.mem_cons_self) begins
      (Nat.lt_of_succ_lt room) with ⟨before, isTable⟩
    refine ⟨before, ?_⟩
    rw [Grammar.tables, Grammar.commas]
    cases isSteps : g.steps with
    | zero => omega
    | succ steps => exact bind_eq isTable (bind_eq (begins.noSymbol (by decide)) rfl)

theorem OrderTerm.reads {term : OrderTerm} (readable : term.node.Readable)
    (isBelow : g.below = Level.within steps depth) (enough : 3 ≤ steps)
    (room : (term.node.tokens dropped).length < steps)
    (begins : Begins ["LIMIT", "OFFSET"] [","] rest) (plain : Plain rest) :
    Reads g.orderKey (term.tokens dropped ++ rest) (term.toKey dropped) rest
      (term.node.height ≤ depth) := by
  have noNulls : ∀ last, keywords? ["NULLS", last] rest = some (false, rest) :=
    fun last => begins.noKeywords (by decide) _
  have noFill : g.fillText rest = some ("", rest) :=
    bind_eq (begins.noKeywords (by decide) _) rfl
  rcases term with ⟨node, ascending⟩
  have behind : Begins expressionWords [",", ")"]
      (.word (if ascending then "ASC" else "DESC") :: rest) := by
    apply Begins.word
    cases ascending <;> decide
  have isDirection : oneOf? ["ASC", "DESC"] (.word (if ascending then "ASC" else "DESC") :: rest) =
      some (some (if ascending then "ASC" else "DESC"), rest) := by
    cases ascending <;> rfl
  have reads := (readable.isRead enough room).reads enough isBelow behind
    (plain_cons.2 ⟨by simp, plain⟩)
  rw [OrderTerm.tokens, List.append_assoc]
  refine .bind reads <| .skip isDirection <| .skip (noNulls _) <| .skip (noNulls _) <|
    .skip (pure_apply _ _) <| .skip noFill <| .of_eq ?_
  cases ascending <;> simp [pure_apply, toKey, optionText]

theorem reads_where {predicate : Option Node} (readable : ∀ node ∈ predicate, node.Readable)
    (isBelow : g.below = Level.within steps depth) (enough : 3 ≤ steps)
    (room : (commaTokens (predicate.toList.map (Node.tokens dropped))).length < steps)
    (begins : Begins ["GROUP", "ORDER", "LIMIT", "OFFSET"] [] rest) (plain : Plain rest) :
    Reads (after? "WHERE" g.expression)
      (clauseTokens ["WHERE"] (predicate.toList.map (Node.tokens dropped)) ++ rest)
      (predicate.map (Node.toExpr dropped)) rest (∀ node ∈ predicate, node.height ≤ depth) := by
  cases predicate with
  | none => exact .of_eq (begins.noAfter (by decide))
  | some node =>
    have behind : Begins expressionWords [",", ")"] rest := begins.mono (by decide) (by decide)
    have isRead := (readable node rfl).isRead enough room
    have reads := isRead.reads enough isBelow behind plain
    exact .afterKeyword (by decide) (reads.mono fun shallow => shallow node rfl)

theorem reads_group {nodes : List Node} (readable : ∀ node ∈ nodes, node.Readable)
    (isSteps : g.steps = steps) (isBelow : g.below = Level.within steps depth) (enough : 3 ≤ steps)
    (room : (commaTokens (nodes.map (Node.tokens dropped))).length < steps)
    (begins : Begins ["ORDER", "LIMIT", "OFFSET"] [] rest) (plain : Plain rest) :
    ∃ text, Reads g.groupClause
      (clauseTokens ["GROUP", "BY"] (nodes.map (Node.tokens dropped)) ++ rest)
      (nodes.map (Node.toExpr dropped), text) rest (∀ node ∈ nodes, node.height ≤ depth) := by
  by_cases isEmpty : nodes = []
  · subst isEmpty
    exact ⟨_, .of_eq (Grammar.groupClause_absent begins)⟩
  · have behind : ∀ {rest}, Begins ["ORDER", "LIMIT", "OFFSET"] [","] rest →
        Begins expressionWords [",", ")"] rest := fun begins => begins.mono (by decide) (by decide)
    have leads : Leads ["("] (commaTokens (nodes.map (Node.tokens dropped)) ++ rest) :=
      Leads.commas (fun node isNode _ begins => ((readable node isNode).leads begins).1) isEmpty
        (begins.mono (by decide) (by decide))
    have reads : Reads (g.commas g.groupTerm)
        (commaTokens (nodes.map (Node.tokens dropped)) ++ rest)
        (nodes.map (Node.toExpr dropped)) rest (∀ node ∈ nodes, node.height ≤ depth) := by
      refine Grammar.reads_commas isSteps room (fun node isNode => (readable node isNode).plain) ?_
        isEmpty (by decide) begins plain
      intro node isNode shorter rest begins plain
      have isRead := (readable node isNode).isRead enough shorter
      have atTerm := (behind begins).behindTerm.behindOperand
      exact Grammar.reads_groupTerm ((readable node isNode).leads atTerm).1
        (fun more isOpen => (readable node isNode).notEmpty atTerm isOpen)
        (isRead.reads enough isBelow (behind begins) plain)
    rcases Grammar.reads_groupClause leads reads begins (by omega) with ⟨text, reads⟩
    refine ⟨text, ?_⟩
    simpa [clauseTokens, isEmpty] using reads

theorem reads_order {terms : List OrderTerm} (readable : ∀ term ∈ terms, term.node.Readable)
    (isSteps : g.steps = steps) (isBelow : g.below = Level.within steps depth) (enough : 3 ≤ steps)
    (room : (commaTokens (terms.map (OrderTerm.tokens dropped))).length < steps)
    (begins : Begins ["LIMIT", "OFFSET"] [] rest) (plain : Plain rest) :
    ∃ keys, keys.getD [] = terms.map (OrderTerm.toKey dropped) ∧
      Reads (afterWords? ["ORDER", "BY"] g.orderKeys)
        (clauseTokens ["ORDER", "BY"] (terms.map (OrderTerm.tokens dropped)) ++ rest) keys rest
        (∀ term ∈ terms, term.node.height ≤ depth) := by
  by_cases isEmpty : terms = []
  · subst isEmpty
    exact ⟨none, rfl, .of_eq (begins.noAfterWords (by decide))⟩
  · have plainTerms : ∀ term ∈ terms, Plain (term.tokens dropped) := fun term isTerm =>
      plain_append.2 ⟨(readable term isTerm).plain, by simp⟩
    have reads : Reads g.orderKeys (commaTokens (terms.map (OrderTerm.tokens dropped)) ++ rest)
        (terms.map (OrderTerm.toKey dropped)) rest (∀ term ∈ terms, term.node.height ≤ depth) := by
      refine Grammar.reads_commas isSteps room plainTerms ?_ isEmpty (by decide) begins plain
      intro term isTerm shorter rest begins plain
      rw [OrderTerm.tokens, List.length_append] at shorter
      exact OrderTerm.reads dropped (readable term isTerm) isBelow enough (by omega) begins plain
    have isForm : ∀ word ∈ ["ORDER", "BY"], keywordForm word = word := by decide
    have clause := Reads.afterKeywords isForm reads
    refine ⟨some (terms.map (OrderTerm.toKey dropped)), rfl, ?_⟩
    simpa [clauseTokens, isEmpty] using clause

theorem reads_number (number : Nat) (isBelow : g.below = Level.within steps (depth + 1))
    (enough : 3 ≤ steps) (begins : Begins ["OFFSET"] [] rest) (plain : Plain rest)
    {shallow : Prop} :
    Reads g.expression (numberTokens number ++ rest) (.number (Nat.repr number) false) rest
      shallow := by
  have isRead : (Node.number (Nat.repr number)).IsRead {} steps :=
    .of_literal (.number _ (isDecimal_repr number)) enough fun _ _ => rfl
  exact (isRead.reads enough isBelow (begins.mono (by decide) (by decide)) plain).mono
    fun _ => by simp [Node.height]

/-- A limit is kept as it is read, and of an offset nothing but a text. -/
theorem reads_bounds (limit offset : Option Nat)
    (isBelow : g.below = Level.within steps (depth + 1)) (enough : 3 ≤ steps) {shallow : Prop} :
    ∃ bounds : Grammar.Bounds,
      bounds.limit = limit.map (fun limit => .number (Nat.repr limit) false) ∧
      Reads (g.moreBounds {}) (clauseTokens ["LIMIT"] (limit.toList.map numberTokens) ++
        clauseTokens ["OFFSET"] (offset.toList.map numberTokens)) bounds [] shallow := by
  have readsOffset : ∀ limit : Option Expr, ∃ bounds : Grammar.Bounds, bounds.limit = limit ∧
      Reads (g.moreBounds { limit }) (clauseTokens ["OFFSET"] (offset.toList.map numberTokens))
        bounds [] shallow := by
    intro limit
    cases offset with
    | none => exact ⟨_, rfl, .of_eq (Grammar.moreBounds_absent _)⟩
    | some rows =>
      rcases Grammar.reads_offset limit (reads_number rows isBelow enough .nil plain_nil) with
        ⟨text, reads⟩
      exact ⟨_, rfl, reads⟩
  cases limit with
  | none => exact readsOffset none
  | some limit =>
    rcases readsOffset (some (.number (Nat.repr limit) false)) with ⟨bounds, isLimit, readsMore⟩
    have reads : Reads g.expression _ _ _ shallow := reads_number limit isBelow enough
      (begins_offsetClause offset) (plain_numberClause ["OFFSET"] offset)
    exact ⟨bounds, isLimit, Grammar.reads_limit (Leads.of_number : Leads [] _) reads readsMore⟩

end Clauses

/-! ## Whole queries -/

theorem mapM_itemsOfTerm (dropped : Dropped) {units : List SelectUnit}
    (readable : ∀ unit ∈ units, unit.Readable) :
    (units.map (SelectUnit.toTerm dropped)).mapM itemsOfTerm =
      .ok (units.map SelectUnit.items) := by
  induction units with
  | nil => rfl
  | cons unit units ih =>
    rcases List.forall_mem_cons.1 readable with ⟨here, later⟩
    rw [List.map_cons, List.mapM_cons, here.itemsOfTerm_toTerm, ih later]
    rfl

theorem natural?_toDigits (number : Nat) :
    Decimal.natural? (Nat.toDigits 10 number) = some number := by
  have nonempty : (Nat.toDigits 10 number).isEmpty = false := by simp
  have digits : (Nat.toDigits 10 number).all Char.isDigit = true := by
    rw [List.all_eq_true]
    exact fun c isDigit => Nat.isDigit_of_mem_toDigits (by omega) (by omega) isDigit
  have isNumber : Decimal.digitsNumber (Nat.toDigits 10 number) = number := by
    have same := Nat.ofDigitChars_toDigits (b := 10) (n := number) (by omega) (by omega)
    simpa [Decimal.digitsNumber, Nat.ofDigitChars, Nat.mul_comm] using same
  rw [Decimal.natural?, nonempty, digits, isNumber]
  rfl

/-- The digits of a number are read as the number, if it is one of 64 bits. -/
theorem word64?_repr (number : Nat) :
    Decimal.word64? (Nat.repr number) =
      if number < Decimal.wordBound then some number else none := by
  have isNumber := natural?_toDigits number
  have noSign : '+' ∉ Nat.toDigits 10 number := by
    intro isSign
    exact absurd (Nat.isDigit_of_mem_toDigits (by omega) (by omega) isSign) (by decide)
  rw [Decimal.word64?, Nat.toList_repr]
  generalize Nat.toDigits 10 number = digits at isNumber noSign
  split
  next => exact absurd List.mem_cons_self noSign
  next => rw [isNumber, Option.filter_some]; simp

theorem limitOf_number (limit : Option Nat) :
    limitOf (limit.map fun limit => .number (Nat.repr limit) false) =
      if ∀ number ∈ limit, number < Decimal.wordBound then .ok limit
      else .error (.invalidLimit (Nat.repr (limit.getD 0))) := by
  cases limit with
  | none => rfl
  | some number =>
    by_cases fits : number < Decimal.wordBound <;> simp [limitOf, word64?_repr, fits]

namespace Query

/-- The nodes of a query, those that are selected among them. -/
def nodes (query : Query) : List Node :=
  query.select.map (fun item => item.selection.toNode) ++ query.predicate.toList ++ query.group ++
    query.order.map OrderTerm.node

section Nodes

variable {query : Query} {node : Node}

theorem mem_nodes_of_select {item : SelectItem} (isItem : item ∈ query.select) :
    item.selection.toNode ∈ query.nodes := by
  simp only [nodes, List.mem_append]
  exact .inl (.inl (.inl (List.mem_map_of_mem isItem)))

theorem mem_nodes_of_predicate (isNode : node ∈ query.predicate) : node ∈ query.nodes := by
  simp only [nodes, List.mem_append]
  exact .inl (.inl (.inr (Option.mem_toList.2 isNode)))

theorem mem_nodes_of_group (isNode : node ∈ query.group) : node ∈ query.nodes := by
  simp only [nodes, List.mem_append]
  exact .inl (.inr isNode)

theorem mem_nodes_of_order {term : OrderTerm} (isTerm : term ∈ query.order) :
    term.node ∈ query.nodes := by
  simp only [nodes, List.mem_append]
  exact .inr (List.mem_map_of_mem isTerm)

end Nodes

/-- No column stands behind DISTINCT that the rows are to differ in. -/
def NoColumns (query : Query) (dropped : Dropped) (units : List SelectUnit) : Prop :=
  dropped.rows = true → headWord ((query.tokens dropped units).drop 2) ≠ some "ON"

theorem noColumns_none (query : Query) (units : List SelectUnit) : query.NoColumns {} units := by
  rintro ⟨⟩

/-- The query of SQL that the tokens of a query are read as, but for its texts. -/
structure IsSelectOf (query : Query) (dropped : Dropped) (units : List SelectUnit)
    (select : SelectQuery) : Prop where
  order : select.order = query.order.map (OrderTerm.toKey dropped)
  limit : select.limit = query.limit.map fun limit => .number (Nat.repr limit) false
  body : ∃ before text, select.body = some {
    terms := units.map (SelectUnit.toTerm dropped)
    tables := [⟨{ table := some ((Text.split '.' query.index).map fun name => ⟨name, none⟩), before },
      []⟩]
    predicate := query.predicate.map (Node.toExpr dropped)
    group := query.group.map (Node.toExpr dropped)
    hasHaving := false
    text }

variable {query : Query} {dropped : Dropped} {units : List SelectUnit}

/-- The query of SQL is made into the query again, unless a word does not hold its limit. -/
theorem Readable.ofSelect (readable : query.Readable units) {select : SelectQuery}
    (isSelect : query.IsSelectOf dropped units select) :
    Query.ofSelect select =
      if ∀ limit ∈ query.limit, limit < Decimal.wordBound then .ok query
      else .error (.invalidLimit (Nat.repr (query.limit.getD 0))) := by
  rcases isSelect.body with ⟨before, text, isBody⟩
  have isIndex : Identifier.path ((Text.split '.' query.index).map fun name => ⟨name, none⟩) =
      query.index := by
    rw [Identifier.path, List.map_map]
    exact (congrArg _ (List.map_id _)).trans (Text.intercalate_split query.index)
  have isPredicate :
      (query.predicate.map (Node.toExpr dropped)).map Expr.toNode = query.predicate := by
    cases isNode : query.predicate with
    | none => rfl
    | some node => simp [(readable.predicate node isNode).toNode_toExpr]
  have isGroup : (query.group.map (Node.toExpr dropped)).map Expr.toNode = query.group := by
    rw [List.map_map]
    exact (List.map_congr_left fun node isNode => (readable.group node isNode).toNode_toExpr).trans
      (List.map_id _)
  have isOrder : (query.order.map (OrderTerm.toKey dropped)).map
      (fun key => ⟨key.expr.toNode, key.ascending⟩) = query.order := by
    rw [List.map_map]
    refine (List.map_congr_left fun term isTerm => ?_).trans (List.map_id _)
    simp [OrderTerm.toKey, (readable.order term isTerm).toNode_toExpr]
  have isItems := mapM_itemsOfTerm dropped readable.units
  have isTable : indexOf [⟨{
      table := some ((Text.split '.' query.index).map fun name => ⟨name, none⟩), before }, []⟩] =
      .ok query.index := congrArg Except.ok isIndex
  have isQuery : ({
      select := (units.map SelectUnit.items).flatten, index := query.index
      predicate := query.predicate, group := query.group, order := query.order
      limit := query.limit } : Query) = query := by
    have selects := readable.selects
    rw [← List.flatMap_def, ← readable.select]
    rcases query with ⟨select, index, predicate, group, order, limit, delete⟩
    cases selects
    rfl
  by_cases fits : ∀ limit ∈ query.limit, limit < Decimal.wordBound
  · have isLimit := limitOf_number query.limit
    rw [if_pos fits] at isLimit ⊢
    simp only [Query.ofSelect, isBody, isSelect.order, isSelect.limit, isTable, isItems, isLimit,
      isPredicate, isGroup, isOrder]
    exact congrArg Except.ok isQuery
  · have isLimit := limitOf_number query.limit
    rw [if_neg fits] at isLimit ⊢
    simp only [Query.ofSelect, isBody, isSelect.limit, isTable, isItems, isLimit]
    rfl

-- What stands behind the order, the groups and the predicate of a query.

def boundTokens (query : Query) (dropped : Dropped) : List Token :=
  SearchSql.clauseTokens ["LIMIT"] (query.limit.toList.map numberTokens) ++
    SearchSql.clauseTokens ["OFFSET"] (dropped.offset.toList.map numberTokens)

def orderTokens (query : Query) (dropped : Dropped) : List Token :=
  SearchSql.clauseTokens ["ORDER", "BY"] (query.order.map (OrderTerm.tokens dropped)) ++
    query.boundTokens dropped

def groupTokens (query : Query) (dropped : Dropped) : List Token :=
  SearchSql.clauseTokens ["GROUP", "BY"] (query.group.map (Node.tokens dropped)) ++
    query.orderTokens dropped

theorem clauseTokens_eq (query : Query) (dropped : Dropped) :
    query.clauseTokens dropped =
      SearchSql.clauseTokens ["WHERE"] (query.predicate.toList.map (Node.tokens dropped)) ++
        query.groupTokens dropped := by
  simp [clauseTokens, groupTokens, orderTokens, boundTokens]

theorem begins_boundTokens (query : Query) (dropped : Dropped) :
    Begins ["LIMIT", "OFFSET"] [] (query.boundTokens dropped) :=
  SearchSql.begins_clauseTokens (by decide) _ _ (begins_offsetClause dropped.offset)

theorem begins_orderTokens (query : Query) (dropped : Dropped) :
    Begins ["ORDER", "LIMIT", "OFFSET"] [] (query.orderTokens dropped) :=
  SearchSql.begins_clauseTokens (by decide) _ _ (query.begins_boundTokens dropped)

theorem begins_groupTokens (query : Query) (dropped : Dropped) :
    Begins ["GROUP", "ORDER", "LIMIT", "OFFSET"] [] (query.groupTokens dropped) :=
  SearchSql.begins_clauseTokens (by decide) _ _ (query.begins_orderTokens dropped)

theorem begins_clauseTokens (query : Query) (dropped : Dropped) :
    Begins clauseWords [] (query.clauseTokens dropped) := by
  rw [clauseTokens_eq]
  exact SearchSql.begins_clauseTokens (by decide) _ _ (query.begins_groupTokens dropped)

namespace Readable

theorem plain_boundTokens (query : Query) (dropped : Dropped) :
    Plain (query.boundTokens dropped) :=
  plain_append.2 ⟨plain_numberClause _ _, plain_numberClause _ _⟩

theorem plain_orderTokens (readable : query.Readable units) :
    Plain (query.orderTokens dropped) := by
  apply plain_append.2 ⟨SearchSql.plain_clauseTokens _ _, plain_boundTokens query dropped⟩
  rw [List.forall_mem_map]
  exact fun term isTerm => plain_append.2 ⟨(readable.order term isTerm).plain, by simp⟩

theorem plain_groupTokens (readable : query.Readable units) :
    Plain (query.groupTokens dropped) := by
  apply plain_append.2 ⟨SearchSql.plain_clauseTokens _ _, readable.plain_orderTokens⟩
  rw [List.forall_mem_map]
  exact fun node isNode => (readable.group node isNode).plain

theorem plain_clauseTokens (readable : query.Readable units) :
    Plain (query.clauseTokens dropped) := by
  rw [clauseTokens_eq]
  apply plain_append.2 ⟨SearchSql.plain_clauseTokens _ _, readable.plain_groupTokens⟩
  rw [List.forall_mem_map]
  exact fun node isNode => (readable.predicate node (Option.mem_toList.1 isNode)).plain

/-- The height of a unit is that of what it selects. -/
theorem height_le (readable : query.Readable units) {unit : SelectUnit} (isUnit : unit ∈ units)
    {depth : Nat} (shallow : ∀ node ∈ query.nodes, node.height ≤ depth + 1) :
    unit.height ≤ depth + 1 := by
  cases unit with
  | path base basePath sub => exact Nat.le_add_left 1 depth
  | single item =>
    apply shallow item.selection.toNode
    apply mem_nodes_of_select
    rw [readable.select]
    exact List.mem_flatMap.2 ⟨_, isUnit, List.mem_singleton.2 rfl⟩

/-- The SELECT of a query is read up to its order. -/
theorem reads_selectBody (readable : query.Readable units)
    (noColumns : query.NoColumns dropped units) {g : Grammar} {depth steps : Nat}
    (isSteps : g.steps = steps) (isBelow : g.below = Level.within steps (depth + 1))
    (room : (query.tokens dropped units).length < steps) :
    ∃ before text, Reads g.selectBody (distinctTokens dropped.rows ++
        (commaTokens (units.map (SelectUnit.tokens dropped)) ++
          .word "FROM" :: (pathTokens (Text.split '.' query.index) ++ query.clauseTokens dropped)))
      { terms := units.map (SelectUnit.toTerm dropped)
        tables := [⟨{
          table := some ((Text.split '.' query.index).map fun name => ⟨name, none⟩), before }, []⟩]
        predicate := query.predicate.map (Node.toExpr dropped)
        group := query.group.map (Node.toExpr dropped)
        hasHaving := false
        text } (query.orderTokens dropped) (∀ node ∈ query.nodes, node.height ≤ depth + 1) := by
  have nonempty := Text.split_ne_nil query.index
  have lengths := room
  have shorterPath := length_le_pathTokens (Text.split '.' query.index)
  have somePath : 0 < (Text.split '.' query.index).length := List.length_pos_iff.2 nonempty
  have shorterWhere := length_le_clauseTokens ["WHERE"]
    (query.predicate.toList.map (Node.tokens dropped))
  have shorterGroup := length_le_clauseTokens ["GROUP", "BY"]
    (query.group.map (Node.tokens dropped))
  simp only [tokens, clauseTokens_eq, groupTokens, List.length_cons, List.length_append] at lengths
  have behindTerms : Begins ["FROM"] [] (.word "FROM" ::
      (pathTokens (Text.split '.' query.index) ++ query.clauseTokens dropped)) :=
    .word "FROM" _ (by decide)
  have plainTerms : Plain (.word "FROM" ::
      (pathTokens (Text.split '.' query.index) ++ query.clauseTokens dropped)) :=
    plain_cons.2 ⟨by decide, plain_append.2 ⟨plain_pathTokens _, readable.plain_clauseTokens⟩⟩
  have leads : Leads ["(", "*"] (commaTokens (units.map (SelectUnit.tokens dropped)) ++ _) :=
    Leads.commas (fun unit isUnit rest => (readable.units unit isUnit).leads) readable.nonempty
      (behindTerms.mono (by decide) (List.nil_subset _))
  have isDistinct := Grammar.distinctText_eq (g := g) leads fun isRows => by
    have noColumn := noColumns isRows
    rwa [tokens, isRows] at noColumn
  have readsTerms := reads_select dropped readable.units readable.nonempty isSteps isBelow
    (by omega) (by omega) behindTerms plainTerms
  rcases tables_path (g := g) nonempty readable.index (by omega)
    (query.begins_clauseTokens dropped) with ⟨before, isTable⟩
  have readsWhere := reads_where dropped (fun node isNode => readable.predicate node isNode)
    isBelow (by omega) (by omega) (query.begins_groupTokens dropped) readable.plain_groupTokens
  rcases reads_group dropped readable.group isSteps isBelow (by omega) (by omega)
    (query.begins_orderTokens dropped) readable.plain_orderTokens with ⟨groupText, readsGroup⟩
  rw [← clauseTokens_eq] at readsWhere
  rcases Grammar.reads_selectBody isDistinct leads
    (readsTerms.mono fun shallow unit isUnit => readable.height_le isUnit shallow) isTable
    (query.begins_clauseTokens dropped)
    (readsWhere.mono fun shallow node isNode => shallow node (mem_nodes_of_predicate isNode))
    (readsGroup.mono fun shallow node isNode => shallow node (mem_nodes_of_group isNode))
    (query.begins_orderTokens dropped) (by omega) with ⟨text, reads⟩
  exact ⟨before, text, reads⟩

theorem reads (readable : query.Readable units) (noColumns : query.NoColumns dropped units)
    {depth steps : Nat} (room : (query.tokens dropped units).length < steps) :
    ∃ select, query.IsSelectOf dropped units select ∧
      Reads ((Grammar.within steps false (Level.within steps (depth + 1)) steps).boundedQuery "")
        (query.tokens dropped units) select [] (∀ node ∈ query.nodes, node.height ≤ depth + 1) := by
  have isSteps := Grammar.steps_within steps false (Level.within steps (depth + 1)) steps
  have isBelow := Grammar.below_within steps false (Level.within steps (depth + 1)) steps
  have lengths := room
  have shorterOrder := length_le_clauseTokens ["ORDER", "BY"]
    (query.order.map (OrderTerm.tokens dropped))
  simp only [tokens, clauseTokens_eq, groupTokens, orderTokens, List.length_cons,
    List.length_append] at lengths
  rcases readable.reads_selectBody noColumns isSteps isBelow room with ⟨before, text, readsBody⟩
  rcases reads_order dropped readable.order isSteps isBelow (by omega) (by omega)
    (query.begins_boundTokens dropped) (plain_boundTokens query dropped)
    with ⟨keys, isOrder, readsOrder⟩
  rcases reads_bounds query.limit dropped.offset isBelow (by omega)
    with ⟨bounds, isLimit, readsBounds⟩
  rcases Grammar.reads_boundedQuery readsBody (query.begins_orderTokens dropped)
    (readsOrder.mono fun shallow term isTerm => shallow term.node (mem_nodes_of_order isTerm))
    (query.begins_boundTokens dropped) readsBounds (by omega) with ⟨whole, reads⟩
  exact ⟨_, ⟨isOrder, isLimit, before, text, rfl⟩, reads⟩

/-- A text with the tokens of a query is that one statement, or it is nested too deep. -/
theorem statements?_eq (readable : query.Readable units)
    (noColumns : query.NoColumns dropped units) {text : String}
    (isTokens : Token.scan text = some (query.tokens dropped units)) :
    (∃ select, query.IsSelectOf dropped units select ∧ statements? text = some [.select select]) ∨
      statements? text = none ∧ ¬ ∀ node ∈ query.nodes, node.height + 2 ≤ nestingLimit := by
  have isStatements : statements? text =
      statementsFrom (Level.within ((query.tokens dropped units).length + 1) nestingLimit).statement
        ((query.tokens dropped units).length + 1) (query.tokens dropped units) := by
    rw [statements?, isTokens]
    rfl
  -- The text and its one statement take two of the levels, the expressions have the others.
  rcases @reads query dropped units readable noColumns 47 _ (Nat.lt_succ_self _) with
    ⟨select, isSelect, reads⟩
  rcases reads_statements reads (Nat.succ_pos _) with found | ⟨notFound, tooHigh⟩
  · exact .inl ⟨select, isSelect, isStatements.trans found⟩
  · refine .inr ⟨isStatements.trans notFound, fun shallow => tooHigh fun node isNode => ?_⟩
    have isShallow := shallow node isNode
    rw [nestingLimit] at isShallow
    omega

/-- A text with the tokens of a query is read as the query, or as an error. -/
theorem ofSql_of_tokens (readable : query.Readable units)
    (noColumns : query.NoColumns dropped units) {text : String}
    (isTokens : Token.scan text = some (query.tokens dropped units)) :
    (∀ other, Query.ofSql text = .ok other → other = query) ∧
      ((∀ node ∈ query.nodes, node.height + 2 ≤ nestingLimit) →
        (∀ limit ∈ query.limit, limit < Decimal.wordBound) → Query.ofSql text = .ok query) := by
  rcases readable.statements?_eq noColumns isTokens with
    ⟨select, isSelect, isStatements⟩ | ⟨noStatements, tooHigh⟩
  · have isOfSql : Query.ofSql text = Query.ofSelect select := by rw [Query.ofSql, isStatements]
    rw [isOfSql, readable.ofSelect isSelect]
    split
    next fits => exact ⟨fun other isOther => (Except.ok.inj isOther).symm, fun _ _ => rfl⟩
    next tooLarge => exact ⟨nofun, fun _ fits => absurd fits tooLarge⟩
  · have isOfSql : Query.ofSql text = .error .grammar := by rw [Query.ofSql, noStatements]
    rw [isOfSql]
    exact ⟨nofun, fun shallow => absurd shallow tooHigh⟩

end Readable

/--
The text of a query that can be read back is read as the query itself. It is only refused if a tree
of the query is too high or if 64 bits do not hold its limit.
-/
theorem ofSql_toSql (readable : query.Readable units) :
    ∃ text, query.toSql = .ok text ∧
      (∀ other, Query.ofSql text = .ok other → other = query) ∧
      ((∀ node ∈ query.nodes, node.height + 2 ≤ nestingLimit) →
        (∀ limit ∈ query.limit, limit < Decimal.wordBound) → Query.ofSql text = .ok query) := by
  rcases readable.exists_toSql with ⟨text, isText, isTokens⟩
  exact ⟨text, isText, readable.ofSql_of_tokens (noColumns_none query units) isTokens⟩

/-- The units of what the orders of a shop are selected by, in `salesByCity`. -/
def salesUnits : List SelectUnit := [
  .path ⟨.field "shop.address", none⟩ "shop.address" ⟨.field "city", none⟩,
  .single ⟨.call "count" [.raw "*"], some "total"⟩]

/-- A query with every clause, and with brackets and quotes in its text. -/
def salesByCity : Query where
  select := salesUnits.flatMap SelectUnit.items
  index := "shop.orders"
  predicate := some (.conditional "AND"
    (.operator ">" (.operator "*" (.field "item.price") (.field "units")) (.number "9.5"))
    (.operator "=" (.field "note") (.string "it's")))
  group := [.field "shop.address.city"]
  order := [⟨.call "count" [.raw "*"], false⟩]
  limit := some 20

theorem ofSql_toSql_salesByCity :
    ∃ text, salesByCity.toSql = .ok text ∧ Query.ofSql text = .ok salesByCity := by
  have names : ∀ path ∈ ["shop.address", "shop.orders", "item.price", "units", "note",
      "shop.address.city"], ∀ name ∈ Text.split '.' path, IsName name := by decide +kernel
  have decimal : IsDecimal "9.5".toList :=
    ⟨['9', '.', '5'], [], rfl, .pointed ['9'] ['5'] (by simp) (by decide) (by decide), .absent⟩
  have count : (Node.call "count" [.raw "*"]).Readable :=
    .call _ _ (by decide +kernel) (by simp)
  have readable : salesByCity.Readable salesUnits := {
    select := rfl
    nonempty := nofun
    units := by
      simp only [salesUnits, List.forall_mem_cons, List.not_mem_nil, false_implies, implies_true,
        and_true]
      exact ⟨.path _ _ (names _ (by simp)) (by decide +kernel),
        .call _ _ _ count (by rintro _ ⟨⟩; decide +kernel)⟩
    index := names _ (by simp [salesByCity])
    predicate := by
      rintro _ ⟨⟩
      exact .conditional _ _ _ (.inl rfl)
        (.operator _ _ _ (by decide)
          (.operator _ _ _ (by decide) (.field _ (names _ (by simp))) (.field _ (names _ (by simp))))
          (.number _ decimal))
        (.operator _ _ _ (by decide) (.field _ (names _ (by simp))) (.string _))
    group := by
      simp only [salesByCity, List.forall_mem_singleton]
      exact .field _ (names _ (by simp))
    order := by
      simp only [salesByCity, List.forall_mem_singleton]
      exact count
    selects := rfl }
  rcases ofSql_toSql readable with ⟨text, isText, -, isRead⟩
  exact ⟨text, isText, isRead (by decide) (by decide)⟩

end Query

end SearchSql
