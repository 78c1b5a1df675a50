import SearchSql.Proofs.Sql.Operands

/-!
# Clauses that are left out

A rule of the grammar looks for more clauses than a query tree has. Behind a term of a select list,
a table and the last clause of a query stand only words that none of these clauses begins with, so
that the rules take nothing for them.
-/

namespace SearchSql.Sql

open SearchSql.Sql.Parser

/-- The words that clauses of a query begin with. -/
def clauseWords : List String := ["WHERE", "GROUP", "ORDER", "LIMIT", "OFFSET"]

section Labels

variable {words marks reserved : List String} {tokens rest : List Token}

theorem label?_absent (begins : Begins words marks rest) (noAs : "AS" ∉ words)
    (isReserved : words ⊆ reserved) : label? reserved rest = some (none, rest) := by
  rw [label?, bind_of_eq (begins.noKeyword noAs)]
  cases begins with
  | nil => rfl
  | symbol mark rest isMark => rfl
  | word text rest isWord =>
    have isPeek : peek (.word text :: rest) = some (some (.word text), .word text :: rest) := rfl
    have contained : reserved.contains (keywordForm text) = true := by
      simpa using isReserved isWord
    refine (bind_of_eq isPeek).trans ?_
    simp only [contained, if_true]
    rfl

end Labels

namespace Grammar

variable {g : Grammar} {tokens rest : List Token} {shallow : Prop}

/-! ## Terms of a select list -/

theorem wildcardOptions_absent (begins : Begins ["FROM"] [","] rest) :
    g.wildcardOptions rest = some ("", rest) :=
  bind_eq (begins.noAfter (by decide)) <| bind_eq (begins.noAfter (by decide)) <|
    bind_eq (begins.noAfter (by decide)) <| bind_eq (begins.noAfter (by decide)) <|
    bind_eq (begins.noAfter (by decide)) rfl

/-- Of a DISTINCT behind SELECT nothing but a text is kept, if it is on no columns of its own. -/
theorem distinctText_eq {marks : List String} {isDistinct : Bool} (leads : Leads marks tokens)
    (noColumns : isDistinct = true → headWord tokens ≠ some "ON") :
    g.distinctText (distinctTokens isDistinct ++ tokens) =
      some (if isDistinct then " DISTINCT" else "", tokens) := by
  cases isDistinct with
  | false =>
    exact bind_eq (leads.noKeyword (by decide) (by decide)) <|
      bind_eq (leads.noKeyword (by decide) (by decide)) rfl
  | true =>
    have noAll : keyword? "ALL" (.word "DISTINCT" :: tokens) =
      some (false, .word "DISTINCT" :: tokens) := rfl
    have found : keyword? "DISTINCT" (.word "DISTINCT" :: tokens) = some (true, tokens) := rfl
    exact bind_eq noAll <| bind_eq found <| bind_eq rfl <|
      bind_eq (keyword?_absent (noColumns rfl)) rfl

theorem topText_absent {marks : List String} (leads : Leads marks tokens) :
    g.topText tokens = some ("", tokens) :=
  bind_eq (leads.noKeyword (by decide) (by decide)) rfl

/-! ## Tables -/

theorem nextIsCall_absent (word : String) (noOpen : tokens[1]? ≠ some (.symbol "(")) :
    nextIsCall word tokens = some (false, tokens) := by
  have isFalse : (headWord tokens == some word && tokens[1]? == some (.symbol "(")) = false := by
    simp [noOpen]
  refine bind_eq (show peekKeyword tokens = some (headWord tokens, tokens) from rfl) ?_
  refine bind_eq (show peekAt 1 tokens = some (tokens[1]?, tokens) from rfl) ?_
  rw [isFalse]
  rfl

theorem joinKind?_absent (begins : Begins clauseWords [] rest) :
    joinKind? rest = some (none, rest) := by
  refine bind_eq (begins.noKeyword (by decide)) <| bind_eq (begins.noKeyword (by decide)) <|
    bind_eq (begins.noKeyword (by decide)) <| bind_eq (begins.noKeyword (by decide)) ?_
  have isPeek : peekKeyword rest = some (headWord rest, rest) := rfl
  refine bind_eq isPeek ?_
  have noSide : oneOf? ["LEFT", "RIGHT"] rest = some (none, rest) := begins.noneOf (by decide)
  cases isWord : headWord rest with
  | none => exact bind_eq noSide rfl
  | some word =>
    have isMember := begins.mem_of_headWord isWord
    simp only [clauseWords, List.mem_cons, List.not_mem_nil, or_false] at isMember
    rcases isMember with rfl | rfl | rfl | rfl | rfl <;> exact bind_eq noSide rfl

theorem joins_absent (relation : Parser Relation) (begins : Begins clauseWords [] rest)
    (enough : 0 < g.steps) :
    repeated g.steps (g.join? relation) rest = some ([], rest) := by
  apply repeated_none _ enough
  exact bind_eq (begins.noKeyword (by decide)) (bind_eq (joinKind?_absent begins) rfl)

theorem tableLabel?_absent (begins : Begins clauseWords [] rest) :
    g.tableLabel? rest = some (none, rest) :=
  bind_eq (label?_absent begins (by decide) (by decide)) rfl

theorem turnedRelation_absent (relation : Relation) (begins : Begins clauseWords [] rest)
    (enough : 0 < g.steps) :
    g.turnedRelation g.steps relation rest = some (relation, rest) := by
  cases isSteps : g.steps with
  | zero => omega
  | succ steps =>
    have noTurn : g.turned? relation rest = some (none, rest) :=
      bind_eq (begins.noneOf (by decide)) rfl
    exact bind_eq noTurn rfl

/-- A table that only has its name. -/
theorem tableRelation_path (name : String) (names : List String)
    (begins : Begins clauseWords [] rest) (enough : names.length < g.steps) :
    ∃ before, g.tableRelation (pathTokens (name :: names) ++ rest) =
      some ({ table := some ((name :: names).map fun name => ⟨name, none⟩), before }, rest) := by
  have noHints : attempt (do keyword "WITH"; symbol "(") rest = some (none, rest) := by
    have fails : (do keyword "WITH"; symbol "(" : Parser Unit) rest = none := by
      rw [bind_apply, keyword, bind_of_eq (begins.noKeyword (by decide))]
      rfl
    rw [attempt, fails]
  exact ⟨_,
    bind_eq (objectName_path name names begins (by decide) enough) <|
    bind_eq (begins.noAfter (by decide)) <|
    bind_eq (begins.noSymbol (by decide)) <|
    bind_eq (pure_apply _ _) <|
    bind_eq (begins.noKeywords (by decide) _) <|
    bind_eq (tableLabel?_absent begins) <|
    bind_eq noHints <|
    bind_eq (pure_apply _ _) <|
    bind_eq (turnedRelation_absent _ begins (by omega)) <|
    bind_eq (begins.noKeyword (by decide)) rfl⟩

theorem table_path (name : String) (names : List String) (isName : IsName name)
    (begins : Begins clauseWords [] rest) (enough : names.length < g.steps) :
    ∃ before, g.table (pathTokens (name :: names) ++ rest) =
      some (⟨{ table := some ((name :: names).map fun name => ⟨name, none⟩), before }, []⟩, rest) := by
  have leads : Leads [] (pathTokens (name :: names) ++ rest) := by
    rw [pathTokens_cons]
    exact .of_word (.inr isName.free)
  have isSecond : (pathTokens (name :: names) ++ rest)[1]? ≠ some (.symbol "(") := by
    rw [pathTokens_cons, List.cons_append, List.getElem?_cons_succ, ← List.head?_eq_getElem?]
    cases names with
    | nil =>
      intro isOpen
      cases begins.mem_of_headSymbol isOpen
    | cons next names => simp [dotTokens]
  rcases tableRelation_path name names begins enough with ⟨before, isTable⟩
  refine ⟨before, ?_⟩
  have isRelation : g.relation (pathTokens (name :: names) ++ rest) =
      some ({ table := some ((name :: names).map fun name => ⟨name, none⟩), before }, rest) := by
    rw [relation]
    cases isSteps : g.steps with
    | zero => omega
    | succ steps =>
      refine bind_eq (leads.noKeyword (by decide) (by decide)) ?_
      refine bind_eq (leads.noKeyword (by decide) (by decide)) ?_
      refine bind_eq (leads.noSymbol (by decide)) ?_
      refine bind_eq (nextIsCall_absent _ isSecond) ?_
      refine bind_eq (leads.noKeyword (by decide) (by decide)) ?_
      refine bind_eq (nextIsCall_absent _ isSecond) ?_
      exact isTable
  exact bind_eq isRelation (bind_eq (joins_absent _ begins (by omega)) rfl)

/-! ## Clauses behind the tables -/

theorem intoText_absent (begins : Begins ["FROM"] [] rest) : g.intoText rest = some ("", rest) :=
  bind_eq (begins.noKeyword (by decide)) rfl

theorem lateralViews_absent (begins : Begins clauseWords [] rest) (enough : 0 < g.steps) :
    repeated g.steps g.lateralView? rest = some ([], rest) :=
  repeated_none (begins.noAfterWords (by decide)) enough

theorem groupClause_absent (begins : Begins ["ORDER", "LIMIT", "OFFSET"] [] rest) :
    g.groupClause rest = some (([], ""), rest) :=
  bind_eq (begins.noKeywords (by decide) _) rfl

theorem windowText_absent (begins : Begins ["ORDER", "LIMIT", "OFFSET"] [] rest) :
    g.windowText rest = some ("", rest) :=
  bind_eq (begins.noAfter (by decide)) (bind_eq (begins.noAfter (by decide)) rfl)

theorem hierarchyText_absent (begins : Begins ["ORDER", "LIMIT", "OFFSET"] [] rest) :
    g.hierarchyText rest = some ("", rest) :=
  bind_eq (begins.noKeyword (by decide)) (bind_eq (begins.noKeyword (by decide)) rfl)

/-- A term of GROUP BY is an expression if it is no pair of brackets with nothing inside. -/
theorem reads_groupTerm {value : Expr} {marks : List String} (leads : Leads marks tokens)
    (notEmpty : ∀ more, tokens = .symbol "(" :: more → more.head? ≠ some (.symbol ")"))
    (reads : Reads g.expression tokens value rest shallow) :
    Reads g.groupTerm tokens value rest shallow := by
  have fails : (do symbol "("; symbol ")" : Parser Unit) tokens = none := by
    by_cases isOpen : tokens.head? = some (.symbol "(")
    · rcases List.head?_eq_some_iff.1 isOpen with ⟨more, rfl⟩
      exact bind_eq (show symbol "(" _ = some ((), more) from rfl) (symbol_absent (notEmpty more rfl))
    · rw [bind_apply, symbol_absent isOpen]
      rfl
  have noPair : attempt (do symbol "("; symbol ")") tokens = some (none, tokens) := by
    rw [attempt, fails]
  have noSets : keywords? ["GROUPING", "SETS"] tokens = some (false, tokens) :=
    keywords?_absent (leads.headWord_ne (by decide) (by decide)) _
  exact .skip noSets (.skip (leads.noneOf (by decide) (by decide)) (.skip noPair reads))

theorem reads_groupClause {values : List Expr} {marks : List String} (leads : Leads marks tokens)
    (reads : Reads (g.commas g.groupTerm) tokens values rest shallow)
    (begins : Begins ["ORDER", "LIMIT", "OFFSET"] [] rest) (enough : 0 < g.steps) :
    ∃ text, Reads g.groupClause (.word "GROUP" :: .word "BY" :: tokens) (values, text) rest
      shallow := by
  have isGroup : keywords? ["GROUP", "BY"] (.word "GROUP" :: .word "BY" :: tokens) =
    some (true, tokens) := keywords?_append (by decide) tokens
  have noModifier : repeated g.steps (do
      if ← keyword? "WITH" then
        return some (" WITH " ++ (← oneOf ["ROLLUP", "CUBE", "TOTALS"]))
      else return none) rest = some ([], rest) :=
    repeated_none (bind_eq (begins.noKeyword (by decide)) rfl) enough
  exact ⟨_, .skip isGroup <| .skip (leads.noKeyword (by decide) (by decide)) <|
    .bind (.map some reads) <| .skip noModifier (.of_eq rfl)⟩

/-- A SELECT whose clauses are those of a query tree, behind a text about distinct rows. -/
theorem reads_selectBody {terms : List SelectTerm} {tables : List JoinedRelation}
    {predicate : Option Expr} {group : List Expr} {distinct groupText : String}
    {marks : List String} {termTokens afterTerms afterTables afterWhere : List Token}
    (isDistinct : g.distinctText tokens = some (distinct, termTokens))
    (leads : Leads marks termTokens)
    (readsTerms : Reads (g.commas g.selectTerm) termTokens terms (.word "FROM" :: afterTerms)
      shallow)
    (readsTables : g.tables afterTerms = some (tables, afterTables))
    (behindTables : Begins clauseWords [] afterTables)
    (readsWhere : Reads (after? "WHERE" g.expression) afterTables predicate afterWhere shallow)
    (readsGroup : Reads g.groupClause afterWhere (group, groupText) rest shallow)
    (behind : Begins ["ORDER", "LIMIT", "OFFSET"] [] rest) (enough : 0 < g.steps) :
    ∃ text, Reads g.selectBody tokens
      { terms, tables, predicate, group, hasHaving := false, text } rest shallow := by
  have behindTerms : Begins ["FROM"] [] (.word "FROM" :: afterTerms) := .word _ _ (by decide)
  have isFrom : Reads (after? "FROM" g.tables) (.word "FROM" :: afterTerms) (some tables) afterTables
      shallow := .afterKeyword (by decide) (.of_eq readsTables)
  exact ⟨_, .skip isDistinct <| .skip (topText_absent leads) <|
    .bind readsTerms <| .skip (intoText_absent behindTerms) <| .bind isFrom <|
    .skip (lateralViews_absent behindTables enough) <|
    .skip (behindTables.noAfter (by decide)) <| .bind readsWhere <| .bind readsGroup <|
    .skip (behind.noAfterWords (by decide)) <| .skip (behind.noAfterWords (by decide)) <|
    .skip (behind.noAfterWords (by decide)) <| .skip (behind.noAfter (by decide)) <|
    .skip (windowText_absent behind) <| .skip (hierarchyText_absent behind) (.of_eq rfl)⟩

/-! ## Queries -/

theorem reads_queryBody {body : SelectBody} (reads : Reads g.selectBody tokens body rest shallow)
    (begins : Begins ["ORDER", "LIMIT", "OFFSET"] [] rest) (enough : 0 < g.steps) :
    Reads g.queryBody (.word "SELECT" :: tokens) ⟨some body, body.text⟩ rest shallow := by
  have isSelect : keyword? "SELECT" (.word "SELECT" :: tokens) = some (true, tokens) := rfl
  have first : Reads g.simplePart (.word "SELECT" :: tokens) ⟨some body, body.text⟩ rest shallow :=
    .skip isSelect (.bind reads (.of_eq rfl))
  have noIntersection : g.intersections g.steps ⟨some body, body.text⟩ rest =
      some (⟨some body, body.text⟩, rest) := by
    cases isSteps : g.steps with
    | zero => omega
    | succ steps => exact bind_eq (begins.noKeyword (by decide)) rfl
  have noOperation : g.setOperations g.steps ⟨some body, body.text⟩ rest =
      some (⟨some body, body.text⟩, rest) := by
    cases isSteps : g.steps with
    | zero => omega
    | succ steps => exact bind_eq (begins.noneOf (by decide)) rfl
  exact .bind first (.skip noIntersection (.of_eq noOperation))

theorem moreBounds_absent (bounds : Bounds) : g.moreBounds bounds [] = some (bounds, []) := by
  rcases bounds with ⟨_ | limit, _ | offset⟩ <;> rfl

/-- What stands behind a limit is read as it is where the limit is known. -/
theorem reads_limit {limit : Expr} {bounds : Bounds} {marks : List String} {behind : List Token}
    (leads : Leads marks tokens) (reads : Reads g.expression tokens limit rest shallow)
    (readsMore : Reads (g.moreBounds { limit := some limit }) rest bounds behind shallow) :
    Reads (g.moreBounds {}) (.word "LIMIT" :: tokens) bounds behind shallow := by
  have isLimit : keyword? "LIMIT" (.word "LIMIT" :: tokens) = some (true, tokens) := rfl
  have noAll : keyword? "ALL" tokens = some (false, tokens) :=
    leads.noKeyword (by decide) (by decide)
  exact .skip isLimit (.skip noAll (.bind (.map some reads) readsMore))

/-- Of an offset nothing but its text is kept. -/
theorem reads_offset {value : Expr} (limit : Option Expr)
    (reads : Reads g.expression tokens value [] shallow) :
    ∃ text, Reads (g.moreBounds { limit }) (.word "OFFSET" :: tokens) { limit, offset := some text }
      [] shallow := by
  have isOffset : keyword? "OFFSET" (.word "OFFSET" :: tokens) = some (true, tokens) := rfl
  have noLimit : keyword? "LIMIT" (.word "OFFSET" :: tokens) =
    some (false, .word "OFFSET" :: tokens) := rfl
  have isText : Reads (after? "OFFSET" do
      let value ← g.expressionText
      return " OFFSET " ++ value ++ optionText (" " ++ ·) (← oneOf? ["ROW", "ROWS"]))
      (.word "OFFSET" :: tokens) (some (" OFFSET " ++ value.text ++ "")) [] shallow :=
    .skip isOffset (.map some (.bind (.bind reads (.of_eq rfl)) (.of_eq rfl)))
  cases limit with
  | some limit => exact ⟨_, .skip (pure_apply _ _) (.bind isText (.of_eq rfl))⟩
  | none => exact ⟨_, .skip noLimit (.skip (pure_apply _ _) (.bind isText (.of_eq rfl)))⟩

/-- A query that ends with its order and its bounds. -/
theorem reads_boundedQuery {body : SelectBody} {order : Option (List OrderKey)} {bounds : Bounds}
    {lead : String} {afterBody afterOrder : List Token}
    (readsBody : Reads g.selectBody tokens body afterBody shallow)
    (behindBody : Begins ["ORDER", "LIMIT", "OFFSET"] [] afterBody)
    (readsOrder : Reads (afterWords? ["ORDER", "BY"] g.orderKeys) afterBody order afterOrder shallow)
    (behindOrder : Begins ["LIMIT", "OFFSET"] [] afterOrder)
    (readsBounds : Reads (g.moreBounds {}) afterOrder bounds [] shallow) (enough : 0 < g.steps) :
    ∃ text, Reads (g.boundedQuery lead) (.word "SELECT" :: tokens)
      { body := some body, order := order.getD [], limit := bounds.limit, text } [] shallow := by
  have noMore := g.moreBounds_absent bounds
  have noClauses : g.forClauses g.steps [] = some ([], []) := by
    cases isSteps : g.steps with
    | zero => omega
    | succ steps => rfl
  have first := reads_queryBody readsBody behindBody enough
  cases order with
  | none =>
    exact ⟨_, .bind first <| .bind readsOrder <| .skip (pure_apply _ _) <| .bind readsBounds <|
      .skip noMore <| .skip rfl <| .skip rfl <| .skip rfl <| .skip noClauses <| .skip rfl <|
      .of_eq rfl⟩
  | some keys =>
    have noFilling : g.interpolateText afterOrder = some ("", afterOrder) :=
      bind_eq (behindOrder.noKeyword (by decide)) rfl
    exact ⟨_, .bind first <| .bind readsOrder <| .skip noFilling <| .bind readsBounds <|
      .skip noMore <| .skip rfl <| .skip rfl <| .skip rfl <| .skip noClauses <| .skip rfl <|
      .of_eq rfl⟩

theorem reads_queryRule {query : SelectQuery}
    (reads : Reads (g.boundedQuery "") (.word "SELECT" :: tokens) query rest shallow) :
    Reads g.queryRule (.word "SELECT" :: tokens) query rest shallow := by
  have begins : Begins ["SELECT"] [] (.word "SELECT" :: tokens) := .word _ _ (by decide)
  have noTables : g.withText (.word "SELECT" :: tokens) = some ("", .word "SELECT" :: tokens) :=
    bind_eq (begins.noKeyword (by decide)) rfl
  exact .skip noTables <| .skip (begins.noKeyword (by decide)) <|
    .skip (begins.noKeyword (by decide)) reads

theorem reads_statementRule {query : SelectQuery}
    (reads : Reads g.query (.word "SELECT" :: tokens) query rest shallow) :
    Reads g.statementRule (.word "SELECT" :: tokens) (.select query) rest shallow := by
  have isPeek : peek (.word "SELECT" :: tokens) =
    some (some (.word "SELECT"), .word "SELECT" :: tokens) := rfl
  have isSelect : peekKeyword (.word "SELECT" :: tokens) =
    some (some "SELECT", .word "SELECT" :: tokens) := rfl
  exact .skip isPeek (.skip isSelect (.bind reads (.of_eq rfl)))

end Grammar

/-- A text that is one query, whose expressions are two steps of nesting below the text. -/
theorem reads_statements {tokens : List Token} {shallow : Prop} {steps depth : Nat}
    {query : SelectQuery}
    (reads : Reads ((Grammar.within steps false (Level.within steps depth) steps).boundedQuery "")
      (.word "SELECT" :: tokens) query [] shallow) (enough : 0 < steps) :
    let found := statementsFrom (Level.within steps (depth + 2)).statement steps
      (.word "SELECT" :: tokens)
    found = some [.select query] ∨ found = none ∧ ¬ shallow := by
  cases steps with
  | zero => omega
  | succ more =>
    have statement : Reads (Level.within (more + 1) (depth + 2)).statement (.word "SELECT" :: tokens)
        (.select query) [] shallow := Grammar.reads_statementRule (Grammar.reads_queryRule reads)
    have isText : dropSemicolons (.word "SELECT" :: tokens) = .word "SELECT" :: tokens := rfl
    rcases statement with isStatement | ⟨fails, tooDeep⟩
    · left
      simp only [statementsFrom, isText, isStatement, Option.bind_eq_bind, Option.bind_some]
    · refine .inr ⟨?_, tooDeep⟩
      simp only [statementsFrom, isText, fails, Option.bind_eq_bind, Option.bind_none]

end SearchSql.Sql
