import SearchSql.Proofs.Sql.Names
import SearchSql.Sql.Grammar.Statement

/-!
# Operands and operators that are read back

What the rules for expressions do with operands that a query tree has: names, literals, calls and
what stands in brackets. `operandWords` are the words that may stand behind an operand and
`operandMarks` the symbols; none of them goes on with the operand itself.

An operator that binds more strongly than asked is taken together with the operand behind it, and
any other ends the expression.
-/

namespace SearchSql.Sql

open SearchSql.Sql.Parser

/-- The keywords that are values. -/
def valueWords : List String := ["TRUE", "FALSE", "NULL"]

/-- Tokens that an operand or one of the symbols can begin with. -/
structure Leads (marks : List String) (tokens : List Token) : Prop where
  word : ∀ word, headWord tokens = some word → word ∈ valueWords ∨ word ∉ reservedWords
  symbol : ∀ mark, tokens.head? = some (.symbol mark) → mark ∈ marks

/-- The words that may stand behind an expression. -/
def expressionWords : List String :=
  ["FROM", "WHERE", "GROUP", "ORDER", "LIMIT", "OFFSET", "AS", "ASC", "DESC"]

def operandWords : List String := expressionWords ++ ["AND", "OR"]

def operandMarks : List String := [",", ")"] ++ infixSymbols

theorem Begins.behindOperand {rest : List Token} (begins : Begins operandWords [",", ")"] rest) :
    Begins operandWords operandMarks rest :=
  begins.mono (fun _ isWord => isWord) (List.subset_append_left [",", ")"] infixSymbols)

theorem Begins.behindTerm {rest : List Token} (begins : Begins expressionWords [",", ")"] rest) :
    Begins operandWords [",", ")"] rest :=
  begins.mono (List.subset_append_left expressionWords ["AND", "OR"]) fun _ isMark => isMark

theorem plain_infixSymbol {op : String} (isOp : op ∈ infixSymbols) :
    Token.symbol op ∉ [Token.symbol "[", .symbol "=>", .symbol ":="] := by
  have plainOps : ∀ op ∈ infixSymbols,
      Token.symbol op ∉ [Token.symbol "[", .symbol "=>", .symbol ":="] := by decide
  exact plainOps op isOp

namespace Leads

variable {marks : List String} {tokens : List Token} {word mark : String}

theorem of_word {text : String}
    (isLead : keywordForm text ∈ valueWords ∨ keywordForm text ∉ reservedWords) :
    Leads marks (.word text :: tokens) := by
  refine ⟨?_, nofun⟩
  intro word isWord
  cases isWord
  exact isLead

theorem of_number {text : String} {long : Bool} : Leads marks (.number text long :: tokens) :=
  ⟨nofun, nofun⟩

theorem of_string {text : String} : Leads marks (.string text :: tokens) := ⟨nofun, nofun⟩

theorem of_symbol (isMark : mark ∈ marks) : Leads marks (.symbol mark :: tokens) := by
  refine ⟨nofun, ?_⟩
  intro other isOther
  cases isOther
  exact isMark

theorem mono {moreMarks : List String} (leads : Leads marks tokens) (subMarks : marks ⊆ moreMarks) :
    Leads moreMarks tokens :=
  ⟨leads.word, fun mark isMark => subMarks (leads.symbol mark isMark)⟩

/-- A list begins with what its first term begins with. -/
theorem commas {α : Type} {items : List α} {itemTokens : α → List Token} {rest : List Token}
    (leads : ∀ item ∈ items, ∀ rest, Begins operandWords operandMarks rest →
      Leads marks (itemTokens item ++ rest)) (nonempty : items ≠ [])
    (begins : Begins operandWords operandMarks rest) :
    Leads marks (commaTokens (items.map itemTokens) ++ rest) := by
  cases items with
  | nil => exact absurd rfl nonempty
  | cons item items =>
    cases items with
    | nil => exact leads item List.mem_cons_self rest begins
    | cons next items =>
      have here := leads item List.mem_cons_self
        (.symbol "," :: (commaTokens ((next :: items).map itemTokens) ++ rest))
        (.symbol "," _ (by decide))
      simpa [commaTokens] using here

theorem headWord_ne (leads : Leads marks tokens) (reserved : word ∈ reservedWords)
    (noValue : word ∉ valueWords) : headWord tokens ≠ some word := by
  intro isWord
  rcases leads.word word isWord with isValue | free
  · exact noValue isValue
  · exact free reserved

theorem noKeyword (leads : Leads marks tokens) (reserved : word ∈ reservedWords)
    (noValue : word ∉ valueWords) : keyword? word tokens = some (false, tokens) :=
  keyword?_absent (leads.headWord_ne reserved noValue)

theorem noneOf (leads : Leads marks tokens) {wanted : List String}
    (reserved : wanted ⊆ reservedWords) (noValue : ∀ word ∈ wanted, word ∉ valueWords) :
    oneOf? wanted tokens = some (none, tokens) := by
  apply oneOf?_absent
  intro word isWord isWanted
  exact leads.headWord_ne (reserved isWanted) (noValue word isWanted) isWord

theorem noSymbol (leads : Leads marks tokens) (absent : mark ∉ marks) :
    symbol? mark tokens = some (false, tokens) := by
  apply symbol?_absent
  intro isMark
  exact absent (leads.symbol mark isMark)

theorem noType (leads : Leads marks tokens) :
    ∀ word, headWord tokens = some word → word ∉ typeWords := by
  intro word isWord isType
  rcases leads.word word isWord with isValue | free
  · have apart : ∀ word ∈ valueWords, word ∉ typeWords := by decide +kernel
    exact apart word isValue isType
  · exact free (typeWords_subset isType)

end Leads

section

variable {tokens rest : List Token} {words marks : List String}

theorem qualifiers?_of_second (noDot : tokens[1]? ≠ some (.symbol ".")) :
    qualifiers? tokens = none := by
  unfold qualifiers?
  split
  next => exact absurd rfl noDot
  next => exact absurd rfl noDot
  next => rfl

theorem qualifiers?_of_first {token : Token} (noName : token.identifier? = none) :
    qualifiers? (token :: tokens) = none := by
  unfold qualifiers?
  split
  next isTokens =>
    cases isTokens
    rw [noName]
    rfl
  next isTokens =>
    cases isTokens
    rw [noName]
    rfl
  next => rfl

theorem qualifiers?_single (token : Token) (begins : Begins words marks rest) (noDot : "." ∉ marks) :
    qualifiers? (token :: rest) = none := by
  apply qualifiers?_of_second
  intro isDot
  have isHead : rest.head? = some (.symbol ".") := by
    rw [List.head?_eq_getElem?]
    exact isDot
  exact noDot (begins.mem_of_headSymbol isHead)

/-- Names with dots between them are no wildcard if no dot follows the last of them. -/
theorem qualifiers?_path (name : String) (names : List String) (begins : Begins words marks rest)
    (noDot : "." ∉ marks) : qualifiers? (pathTokens (name :: names) ++ rest) = none := by
  induction names generalizing name with
  | nil => exact qualifiers?_single _ begins noDot
  | cons next names ih =>
    have later := ih next
    rw [pathTokens_cons] at later ⊢
    have isStep : qualifiers? (.word name :: .symbol "." :: (.word next :: dotTokens names ++ rest)) =
        none := by
      rw [qualifiers?, later]
      · rfl
      · simp
    exact isStep

/-- Names with dots between them begin an operand and no wildcard. -/
theorem leads_path {names : List String} (marks : List String) (nonempty : names ≠ [])
    (areNames : ∀ name ∈ names, IsName name) (begins : Begins operandWords operandMarks rest) :
    Leads marks (pathTokens names ++ rest) ∧ qualifiers? (pathTokens names ++ rest) = none := by
  cases names with
  | nil => exact absurd rfl nonempty
  | cons name names =>
    refine ⟨?_, qualifiers?_path name names begins (by decide)⟩
    rw [pathTokens_cons]
    exact .of_word (.inr (areNames name List.mem_cons_self).free)

/-- Tokens that no wildcard begins. -/
theorem wildcard?_of_leads (leads : Leads ["("] tokens) (noPath : qualifiers? tokens = none) :
    wildcard? tokens = some (none, tokens) := by
  unfold wildcard?
  split
  next rest =>
    exact absurd (leads.symbol "*" rfl) (by decide)
  next => rw [noPath]

theorem strengthOf_ends (begins : Begins expressionWords [",", ")"] rest) :
    strengthOf rest = 0 := by
  have ends : ∀ word ∈ expressionWords, ∀ following, wordStrength word following = 0 := by
    simp only [expressionWords, List.forall_mem_cons]
    exact ⟨fun _ => rfl, fun _ => rfl, fun _ => rfl, fun _ => rfl, fun _ => rfl, fun _ => rfl,
      fun _ => rfl, fun _ => rfl, fun _ => rfl, by simp⟩
  cases begins with
  | nil => rfl
  | word text rest isWord => exact ends _ isWord rest
  | symbol mark rest isMark =>
    have closes : ∀ mark ∈ [",", ")"], symbolStrength mark = 0 := by decide
    exact closes mark isMark

/-- Behind an operand that is no operator, AND binds most strongly. -/
theorem strengthOf_le (begins : Begins operandWords [",", ")"] rest) :
    strengthOf rest ≤ Strength.and := by
  cases begins with
  | nil => exact Nat.zero_le _
  | word text rest isWord =>
    rcases List.mem_append.1 isWord with isEnd | isLink
    · rw [strengthOf_ends (.word text rest isEnd)]
      exact Nat.zero_le _
    · have links : ∀ word ∈ ["AND", "OR"], ∀ following,
          wordStrength word following ≤ Strength.and := by
        simp only [List.forall_mem_cons]
        exact ⟨fun _ => Nat.le_refl 10, fun _ => Nat.le_add_right 5 5, by simp⟩
      exact links _ isLink rest
  | symbol mark rest isMark =>
    rw [strengthOf_ends (.symbol mark rest isMark)]
    exact Nat.zero_le _

theorem strengthOf_infixSymbol {op : String} (isOp : op ∈ infixSymbols) (tokens : List Token) :
    Strength.comparison ≤ strengthOf (.symbol op :: tokens) := by
  have strong : ∀ op ∈ infixSymbols, Strength.comparison ≤ symbolStrength op := by decide
  exact strong op isOp

theorem strengthOf_link {op : String} (isOp : op = "AND" ∨ op = "OR") (tokens : List Token) :
    0 < strengthOf (.word op :: tokens) := by
  rcases isOp with rfl | rfl
  · exact Nat.zero_lt_succ 9
  · exact Nat.zero_lt_succ 4

end

namespace Grammar

variable {g : Grammar} {tokens rest : List Token} {words marks : List String} {shallow : Prop}

theorem steps_within (steps : Nat) (prior : Bool) (below : Level) (length : Nat) :
    (Grammar.within steps prior below length).steps = steps := by
  cases length <;> rfl

theorem below_within (steps : Nat) (prior : Bool) (below : Level) (length : Nat) :
    (Grammar.within steps prior below length).below = below := by
  cases length <;> rfl

/-- An operand is read as such where no literal of a type begins and no collation follows. -/
theorem reads_operandRule {value : Expr} (leads : Leads ["("] tokens) (plain : Plain tokens)
    (begins : Begins operandWords operandMarks rest)
    (reads : Reads g.bareOperand tokens value rest shallow) :
    Reads g.operandRule tokens value rest shallow :=
  .skip (attempt_typedString plain leads.noType)
    (.bind reads (.skip (begins.noKeyword (by decide)) (.of_eq rfl)))

theorem reads_bracketOperand {value : Expr} (leads : Leads ["("] tokens)
    (reads : Reads g.expression tokens value (.symbol ")" :: rest) shallow)
    (begins : Begins operandWords operandMarks rest) (enough : 0 < g.steps) :
    Reads g.bracketOperand tokens (.bracketed value) rest shallow := by
  have noQuery : ((headWord tokens).map ["SELECT", "WITH"].contains).getD false = false := by
    cases isWord : headWord tokens with
    | none => rfl
    | some word =>
      have noSelect : headWord tokens ≠ some "SELECT" :=
        leads.headWord_ne (by decide) (by decide)
      have noWith : headWord tokens ≠ some "WITH" := leads.headWord_ne (by decide) (by decide)
      simp_all
  have isPeek : peekKeyword tokens = some (headWord tokens, tokens) := rfl
  have closes : symbol ")" (.symbol ")" :: rest) = some ((), rest) := rfl
  have single : Reads g.expressions tokens [value] (.symbol ")" :: rest) shallow :=
    reads.commaLast rfl enough
  rw [bracketOperand]
  refine .skip isPeek ?_
  rw [noQuery]
  have noDot : symbol? "." rest = some (false, rest) := begins.noSymbol (by decide)
  exact .bind single (.skip (pure_apply _ _) (.skip closes (.skip noDot (.of_eq rfl))))

/-- Tokens that are read as an expression are read as an operand in brackets. -/
theorem reads_bracketed {value : Expr} (leads : Leads ["("] (tokens ++ .symbol ")" :: rest))
    (plain : Plain tokens) (plainRest : Plain rest)
    (reads : Reads g.expression (tokens ++ .symbol ")" :: rest) value (.symbol ")" :: rest) shallow)
    (begins : Begins operandWords operandMarks rest) (enough : 0 < g.steps) :
    Reads g.operandRule (.symbol "(" :: (tokens ++ .symbol ")" :: rest)) (.bracketed value) rest
      shallow := by
  have isNext : next (.symbol "(" :: (tokens ++ .symbol ")" :: rest)) =
    some (.symbol "(", tokens ++ .symbol ")" :: rest) := rfl
  apply reads_operandRule (.of_symbol List.mem_cons_self) (by simp [plain, plainRest]) begins
  exact .skip isNext (reads_bracketOperand leads reads begins enough)

/-- Terms are read with commas between them if each is read where the next one may follow. -/
theorem reads_commas {α β : Type} {parser : Parser α} {items : List β}
    {itemTokens : β → List Token} {value : β → α} {isShallow : β → Prop} {steps : Nat}
    (isSteps : g.steps = steps) (room : (commaTokens (items.map itemTokens)).length < steps)
    (plainItems : ∀ item ∈ items, Plain (itemTokens item))
    (reads : ∀ item ∈ items, (itemTokens item).length < steps → ∀ rest,
      Begins words ("," :: marks) rest → Plain rest →
      Reads parser (itemTokens item ++ rest) (value item) rest (isShallow item))
    (nonempty : items ≠ []) (absent : "," ∉ marks) (begins : Begins words marks rest)
    (plain : Plain rest) :
    Reads (g.commas parser) (commaTokens (items.map itemTokens) ++ rest) (items.map value) rest
      (∀ item ∈ items, isShallow item) := by
  have enough := length_le_commaTokens (items.map itemTokens)
  rw [List.length_map] at enough
  apply Reads.commaSeparated items itemTokens value plainItems _ nonempty absent begins plain
    (by omega)
  intro item isItem rest begins plain
  have shorter := length_le_of_mem_commaTokens (List.mem_map_of_mem (f := itemTokens) isItem)
  exact (reads item isItem (by omega) rest begins plain).mono fun shallow => shallow item isItem

/-! ## Calls -/

theorem argument_of_plain (plain : Plain tokens) :
    g.argument tokens = g.wildcardOrExpression tokens := by
  have isSecond : peekAt 1 tokens = some (tokens[1]?, tokens) := rfl
  rw [argument, bind_of_eq isSecond]
  cases isToken : tokens[1]? with
  | none => rfl
  | some token =>
    have isPlain := plain token (List.mem_of_getElem? isToken)
    cases token with
    | symbol mark =>
      have noArrow : mark ≠ "=>" := fun same => isPlain (by simp [same])
      have noAssignment : mark ≠ ":=" := fun same => isPlain (by simp [same])
      simp [noArrow, noAssignment]
    | _ => rfl

theorem reads_wildcardOrExpression {value : Expr} (leads : Leads ["("] tokens)
    (noPath : qualifiers? tokens = none) (reads : Reads g.expression tokens value rest shallow) :
    Reads g.wildcardOrExpression tokens value rest shallow :=
  .skip (wildcard?_of_leads leads noPath) reads

theorem argumentClauses_close :
    g.argumentClauses (.symbol ")" :: rest) = some ((none, []), rest) := rfl

/-- Arguments in brackets, with nothing else inside but perhaps a DISTINCT. -/
theorem reads_argumentList {arguments : List Expr} (isDistinct : Bool)
    (leads : Leads ["(", "*"] tokens)
    (reads : Reads (g.commas g.argument) tokens arguments (.symbol ")" :: rest) shallow) :
    Reads g.argumentList (distinctTokens isDistinct ++ tokens)
      { before := wordIf isDistinct "DISTINCT", arguments } rest shallow := by
  rw [argumentList]
  cases isDistinct with
  | false =>
    have noAll : keyword? "ALL" tokens = some (false, tokens) :=
      leads.noKeyword (by decide) (by decide)
    have noDistinct : keyword? "DISTINCT" tokens = some (false, tokens) :=
      leads.noKeyword (by decide) (by decide)
    have more : symbol? ")" tokens = some (false, tokens) := leads.noSymbol (by decide)
    refine .skip more (.skip noAll (.skip noDistinct ?_))
    refine .skip rfl (.bind reads (.skip argumentClauses_close (.of_eq rfl)))
  | true =>
    have found : keyword? "DISTINCT" (.word "DISTINCT" :: tokens) = some (true, tokens) := rfl
    refine .skip rfl (.skip rfl (.skip found ?_))
    refine .skip rfl (.bind reads (.skip argumentClauses_close (.of_eq rfl)))

theorem reads_call {name : Identifier} {before : String} {arguments : List Expr}
    {interval : Parser Expr}
    (reads : Reads g.argumentList tokens { before, arguments } rest shallow)
    (begins : Begins operandWords operandMarks rest) :
    Reads (g.call interval [name]) (.symbol "(" :: tokens)
      (.call [name] ("(" ++ before) arguments ")") rest shallow := by
  have opens : symbol "(" (.symbol "(" :: tokens) = some ((), tokens) := rfl
  have noSecond : symbol? "(" rest = some (false, rest) := begins.noSymbol (by decide)
  have noWithin : g.withinText? rest = some (none, rest) := begins.noAfterWords (by decide)
  have noNulls : nullTreatment? rest = some (none, rest) := by
    rw [nullTreatment?, bind_of_eq (begins.noneOf (by decide))]
    rfl
  have noWindow : g.overText? interval rest = some (none, rest) := begins.noAfter (by decide)
  rw [call]
  refine .skip opens (.bind reads (.skip noSecond (.skip (pure_apply _ _) ?_)))
  exact .skip noWithin (.skip noNulls (.skip noWindow (.of_eq rfl)))

theorem reads_nameCall {name : Identifier} {before : String} {arguments : List Expr}
    (reads : Reads g.argumentList tokens { before, arguments } rest shallow)
    (begins : Begins operandWords operandMarks rest) :
    Reads (g.nameOperand name) (.symbol "(" :: tokens)
      (.call [name] ("(" ++ before) arguments ")") rest shallow := by
  have isPeek : peek (.symbol "(" :: tokens) = some (some (.symbol "("), .symbol "(" :: tokens) := rfl
  exact .skip isPeek (reads_call reads begins)

/-! ## Operators -/

theorem binaryOperator?_infixSymbol {op : String} (isOp : op ∈ infixSymbols) (tokens : List Token) :
    binaryOperator? g (.symbol op :: tokens) = some (some op, tokens) := by
  have known : ∀ op ∈ infixSymbols, (Table.get? symbolOperators op).map (·.2) = some op := by
    decide
  rcases Option.map_eq_some_iff.1 (known op isOp) with ⟨⟨strength, text⟩, isEntry, isText⟩
  have isPeek : peek (.symbol op :: tokens) = some (some (.symbol op), .symbol op :: tokens) := rfl
  have isNext : next (.symbol op :: tokens) = some (.symbol op, tokens) := rfl
  rw [binaryOperator?, bind_of_eq isPeek]
  simp only [isEntry]
  rw [bind_of_eq isNext, ← isText]
  rfl

theorem binaryOperator?_link {op : String} (isOp : op = "AND" ∨ op = "OR") (tokens : List Token) :
    binaryOperator? g (.word op :: tokens) = some (some op, tokens) := by
  rcases isOp with rfl | rfl <;> rfl

theorem continued_ends {steps strength : Nat} {left : Expr} (ends : strengthOf rest ≤ strength)
    (enough : 0 < steps) : g.continued nextStrength steps strength left rest = some (left, rest) := by
  cases steps with
  | zero => omega
  | succ steps =>
    have isNext : nextStrength rest = some (strengthOf rest, rest) := rfl
    rw [continued, bind_of_eq isNext, if_neg (by omega)]
    rfl

theorem reads_continued {op : String} {token : Token} {steps strength : Nat}
    {left right value : Expr} {between : List Token}
    (isOperator : binaryOperator? g (token :: tokens) = some (some op, tokens))
    (stronger : strength < strengthOf (token :: tokens)) (leads : Leads ["("] tokens)
    (reads : Reads (g.operation (strengthOf (token :: tokens))) tokens right between shallow)
    (continues : Reads (g.continued nextStrength steps strength (.binary op left right)) between
      value rest shallow) :
    Reads (g.continued nextStrength (steps + 1) strength left) (token :: tokens) value rest
      shallow := by
  have isNext : nextStrength (token :: tokens) =
    some (strengthOf (token :: tokens), token :: tokens) := rfl
  have single : oneOf? ["ANY", "ALL"] tokens = some (none, tokens) :=
    leads.noneOf (by decide) (by decide)
  have sides : Reads (g.continuation left (strengthOf (token :: tokens))) (token :: tokens)
      (.binary op left right) between shallow :=
    .skip isOperator (.skip single (.bind reads (.of_eq rfl)))
  rw [continued]
  refine .skip isNext ?_
  rw [if_pos stronger]
  exact .bind sides continues

end Grammar

end SearchSql.Sql
