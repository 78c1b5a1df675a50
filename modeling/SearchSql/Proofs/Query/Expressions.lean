import SearchSql.Proofs.Query.Tokens
import SearchSql.Proofs.Sql.Operands

/-!
# Nodes as expressions

The tokens of a node are read as one expression, `Node.toExpr`, that stands for the node. The proof
follows the node. An operator reads its operands, which are in brackets if they are operators
themselves, and what stands behind it binds less strongly; AND and OR are read inside the brackets
that are always around them. `Node.height` bounds the nesting of the brackets, so that a node is
read at every depth that is no less than its height.
-/

namespace SearchSql

open Sql

def bracketExpr (bracketed : Bool) (expr : Expr) : Expr :=
  if bracketed then .bracketed expr else expr

theorem plain_bracketTokens (bracketed : Bool) {tokens : List Token} (plain : Plain tokens) :
    Plain (bracketTokens bracketed tokens) := by
  cases bracketed with
  | false => exact plain
  | true => simp [bracketTokens, plain]

theorem length_le_bracketTokens (bracketed : Bool) (tokens : List Token) :
    tokens.length ≤ (bracketTokens bracketed tokens).length := by
  cases bracketed <;> simp [bracketTokens]
  omega

namespace Node

mutual

/-- The expression that the tokens of a node are read as. -/
def toExpr (dropped : Dropped) : Node → Expr
  | .conditional op left right =>
    .bracketed (.binary op (left.toExpr dropped) (right.toExpr dropped))
  | .operator op left right =>
    .binary op (bracketExpr left.isOperator (left.toExpr dropped))
      (bracketExpr right.isOperator (right.toExpr dropped))
  | .call name arguments =>
    .call [⟨name, none⟩] ("(" ++ wordIf (dropped.isDistinct name arguments) "DISTINCT")
      (allToExpr dropped arguments) ")"
  | .field path => pathExpr (Text.split '.' path)
  | .string text => .string text
  | .number text => .number text false
  | .bool value => .bool value
  | .raw _ => .wildcard
  | .null | .negation _ | .isNull .. | .inList .. => .null

def allToExpr (dropped : Dropped) : List Node → List Expr
  | [] => []
  | node :: rest => node.toExpr dropped :: allToExpr dropped rest

end

mutual

def height : Node → Nat
  | .conditional _ left right | .operator _ left right => max left.height right.height + 1
  | .call _ arguments => maxHeight arguments + 1
  | .negation node | .isNull node _ => node.height + 1
  | .inList node items _ => max node.height (maxHeight items) + 1
  | _ => 1

def maxHeight : List Node → Nat
  | [] => 0
  | node :: rest => max node.height (maxHeight rest)

end

theorem allToExpr_eq_map (dropped : Dropped) (nodes : List Node) :
    allToExpr dropped nodes = nodes.map (toExpr dropped) := by
  induction nodes with
  | nil => rfl
  | cons node rest ih => simp [allToExpr, ih]

theorem height_le_maxHeight {node : Node} {nodes : List Node} (isMember : node ∈ nodes) :
    node.height ≤ maxHeight nodes := by
  induction nodes with
  | nil => cases isMember
  | cons first rest ih =>
    rw [maxHeight]
    rcases List.mem_cons.1 isMember with rfl | isLater
    · exact Nat.le_max_left _ _
    · exact Nat.le_trans (ih isLater) (Nat.le_max_right _ _)

theorem height_pos (node : Node) : 0 < node.height := by
  cases node <;> simp [height]

theorem toNode_pathExpr (path : String) : (pathExpr (Text.split '.' path)).toNode = .field path := by
  have isPath := Text.intercalate_split path
  generalize Text.split '.' path = names at isPath
  have isNames : names.map (Identifier.value ∘ fun name => ⟨name, none⟩) = names := List.map_id _
  unfold pathExpr
  split
  next name =>
    rw [Expr.toNode, ← isPath]
    simp [String.intercalate_singleton]
  next => rw [Expr.toNode, Identifier.path, List.map_map, isNames, isPath]

theorem toNode_bracketExpr (bracketed : Bool) (expr : Expr) :
    (bracketExpr bracketed expr).toNode = expr.toNode := by
  cases bracketed <;> rfl

namespace Readable

variable {dropped : Dropped} {node : Node}

/-- The expression stands for the node that it is read from. -/
theorem toNode_toExpr (readable : node.Readable) : (node.toExpr dropped).toNode = node := by
  induction readable with
  | field path names => exact toNode_pathExpr path
  | number text decimal => rfl
  | string text => rfl
  | bool value => rfl
  | null => rfl
  | call name arguments isName _ ih =>
    have same : ∀ argument ∈ arguments, (argument.toExpr dropped).toNode = argument :=
      forall_argument rfl ih
    have isList : arguments.map (Expr.toNode ∘ toExpr dropped) = arguments :=
      (List.map_congr_left same).trans (List.map_id _)
    simp [toExpr, Expr.toNode, allToExpr_eq_map, Expr.toNodes_eq_map, Identifier.pathText,
      Identifier.text, isList]
  | operator op left right isOp _ _ ihLeft ihRight =>
    have noLink : ∀ op ∈ infixSymbols, ¬ (op = "AND" ∨ op = "OR") := by decide
    rw [toExpr, Expr.toNode, if_neg (noLink op isOp), toNode_bracketExpr, toNode_bracketExpr, ihLeft,
      ihRight]
  | conditional op left right isOp _ _ ihLeft ihRight =>
    rw [toExpr, Expr.toNode, Expr.toNode, if_pos isOp, ihLeft, ihRight]

theorem plain (readable : node.Readable) : Plain (node.tokens dropped) := by
  induction readable with
  | field path names => exact plain_pathTokens _
  | number text decimal => simp [tokens]
  | string text => simp [tokens]
  | bool value => cases value <;> simp [tokens]
  | null => simp [tokens]
  | call name arguments isName _ ih =>
    have plainArguments : ∀ argument ∈ arguments, Plain (argument.tokens dropped) :=
      forall_argument (by simp [tokens]) ih
    have plainList := plain_commaTokens (List.forall_mem_map.2 plainArguments)
    simp [tokens, allTokens_eq_map, plainList]
  | operator op left right isOp _ _ ihLeft ihRight =>
    rw [tokens, plain_append, plain_cons]
    exact ⟨plain_bracketTokens _ ihLeft, plain_infixSymbol isOp, plain_bracketTokens _ ihRight⟩
  | conditional op left right isOp _ _ ihLeft ihRight => simp [tokens, ihLeft, ihRight]

/-- What a node begins with, and that this is no wildcard whatever follows the node. -/
theorem leads (readable : node.Readable) {rest : List Token}
    (begins : Begins operandWords operandMarks rest) :
    Leads ["("] (node.tokens dropped ++ rest) ∧
      qualifiers? (node.tokens dropped ++ rest) = none := by
  induction readable generalizing rest with
  | field path names => exact leads_path _ (Text.split_ne_nil path) names begins
  | number text decimal => exact ⟨.of_number, qualifiers?_single _ begins (by decide)⟩
  | string text => exact ⟨.of_string, qualifiers?_single _ begins (by decide)⟩
  | bool value =>
    have noDot := qualifiers?_single (.word (if value then "true" else "false")) begins
      (by decide)
    cases value with
    | true => exact ⟨.of_word (by decide), noDot⟩
    | false => exact ⟨.of_word (by decide), noDot⟩
  | null => exact ⟨.of_word (by decide), qualifiers?_single _ begins (by decide)⟩
  | call name arguments isName _ ih =>
    exact ⟨.of_word (.inr isName.free), qualifiers?_of_second (by simp [tokens])⟩
  | operator op left right isOp _ _ ihLeft ihRight =>
    rw [tokens, List.append_assoc]
    cases left.isOperator with
    | false => exact ihLeft (.symbol op _ (List.mem_append_right _ isOp))
    | true => exact ⟨.of_symbol List.mem_cons_self, qualifiers?_of_first rfl⟩
  | conditional op left right isOp _ _ ihLeft ihRight =>
    exact ⟨.of_symbol List.mem_cons_self, qualifiers?_of_first rfl⟩

theorem leads_operand (readable : node.Readable) {rest : List Token}
    (begins : Begins operandWords operandMarks rest) :
    Leads ["("] (bracketTokens node.isOperator (node.tokens dropped) ++ rest) := by
  cases node.isOperator with
  | false => exact (readable.leads begins).1
  | true => exact .of_symbol List.mem_cons_self

theorem noClose (readable : node.Readable) {rest : List Token}
    (begins : Begins operandWords operandMarks rest) :
    (node.tokens dropped ++ rest).head? ≠ some (.symbol ")") := by
  intro isClose
  exact absurd ((readable.leads begins).1.symbol ")" isClose) (by decide)

/-- No brackets with nothing inside stand in front of a node. -/
theorem notEmpty (readable : node.Readable) {rest more : List Token}
    (begins : Begins operandWords operandMarks rest)
    (isOpen : node.tokens dropped ++ rest = .symbol "(" :: more) :
    more.head? ≠ some (.symbol ")") := by
  induction readable generalizing rest with
  | field path names =>
    have leads := (leads_path [] (Text.split_ne_nil path) names begins).1
    have isMember := leads.symbol "(" (congrArg List.head? isOpen)
    cases isMember
  | number text decimal => cases isOpen
  | string text => cases isOpen
  | bool value => cases value <;> cases isOpen
  | null => cases isOpen
  | call name arguments isName _ ih => cases isOpen
  | operator op left right isOp readableLeft _ ihLeft _ =>
    rw [tokens, List.append_assoc] at isOpen
    cases isOperator : left.isOperator with
    | false =>
      rw [isOperator] at isOpen
      exact ihLeft (.symbol op _ (List.mem_append_right _ isOp)) isOpen
    | true =>
      rw [isOperator] at isOpen
      cases isOpen
      have closes : Begins operandWords operandMarks (.symbol ")" :: .symbol op ::
          (bracketTokens right.isOperator (right.tokens dropped) ++ rest)) :=
        .symbol ")" _ (by decide)
      have inside : (left.tokens dropped ++ _).head? ≠ _ := readableLeft.noClose closes
      simpa using inside
  | conditional op left right isOp readableLeft _ _ _ =>
    cases isOpen
    have link : Begins operandWords operandMarks
        (.word op :: (right.tokens dropped ++ .symbol ")" :: rest)) := by
      apply Begins.word
      rcases isOp with rfl | rfl <;> decide
    have inside : (left.tokens dropped ++ _).head? ≠ _ := readableLeft.noClose link
    simpa using inside

end Readable

/-- What reading the tokens of a node gives, alone and with what goes on behind it. -/
structure IsRead (dropped : Dropped) (steps : Nat) (node : Node) : Prop where
  /-- A node that is no operator is an operand. -/
  bare : node.isOperator = false → ∀ (g : Grammar) (depth : Nat) (rest : List Token),
    g.steps = steps → g.below = Level.within steps depth →
    Begins operandWords operandMarks rest → Plain rest →
    Reads g.operandRule (node.tokens dropped ++ rest) (node.toExpr dropped) rest
      (node.height ≤ depth + 1)
  whole : ∀ (prior : Bool) (depth length strength : Nat) (rest behind : List Token) (value : Expr)
    (shallow : Prop), strength ≤ Strength.and → Begins operandWords [",", ")"] rest → Plain rest →
    (shallow → node.height ≤ depth + 1) →
    (∀ more, 2 ≤ more → Reads ((Grammar.within steps prior (Level.within steps depth)
      (length + 1)).continued nextStrength more strength (node.toExpr dropped)) rest value behind
      shallow) →
    Reads ((Grammar.within steps prior (Level.within steps depth) (length + 1)).expressionRule
      strength) (node.tokens dropped ++ rest) value behind shallow

variable {dropped : Dropped} {steps : Nat} {node : Node}

theorem IsRead.of_bare (enough : 3 ≤ steps)
    (bare : ∀ (g : Grammar) (depth : Nat) (rest : List Token),
      g.steps = steps → g.below = Level.within steps depth →
      Begins operandWords operandMarks rest → Plain rest →
      Reads g.operandRule (node.tokens dropped ++ rest) (node.toExpr dropped) rest
        (node.height ≤ depth + 1)) :
    IsRead dropped steps node := by
  refine ⟨fun _ => bare, ?_⟩
  intro prior depth length strength rest behind value shallow _ begins plain isShallow continues
  have first := bare (Grammar.within steps prior (Level.within steps depth) (length + 1)) depth rest
    rfl rfl begins.behindOperand plain
  exact .bind (first.mono isShallow) (continues steps (by omega))

/-- A node is read as an expression at every depth that is no less than its height. -/
theorem IsRead.expression (isRead : IsRead dropped steps node) (enough : 3 ≤ steps) {prior : Bool}
    {depth : Nat} {rest : List Token} (begins : Begins expressionWords [",", ")"] rest)
    (plain : Plain rest) :
    Reads ((Level.within steps depth).expression prior) (node.tokens dropped ++ rest)
      (node.toExpr dropped) rest (node.height ≤ depth) := by
  cases depth with
  | zero =>
    have deep := node.height_pos
    exact .inr ⟨rfl, by omega⟩
  | succ depth =>
    rcases Nat.exists_eq_add_of_le' enough with ⟨more, rfl⟩
    apply isRead.whole prior depth (more + 2) 0 rest rest (node.toExpr dropped) _ (by decide)
      begins.behindTerm plain id
    intro steps someSteps
    exact .of_eq (Grammar.continued_ends (Nat.le_of_eq (strengthOf_ends begins)) (by omega))

theorem IsRead.reads (isRead : IsRead dropped steps node) (enough : 3 ≤ steps) {g : Grammar}
    {depth : Nat} (isBelow : g.below = Level.within steps depth) {rest : List Token}
    (begins : Begins expressionWords [",", ")"] rest) (plain : Plain rest) :
    Reads g.expression (node.tokens dropped ++ rest) (node.toExpr dropped) rest
      (node.height ≤ depth) := by
  rw [Grammar.expression, isBelow]
  exact isRead.expression enough begins plain

/-- An operand is read, in the brackets that an operator has around it. -/
theorem IsRead.operand (isRead : IsRead dropped steps node) (readable : node.Readable)
    (enough : 3 ≤ steps) {g : Grammar} {depth : Nat} {rest : List Token} (isSteps : g.steps = steps)
    (isBelow : g.below = Level.within steps depth) (begins : Begins operandWords operandMarks rest)
    (plain : Plain rest) :
    Reads g.operandRule (bracketTokens node.isOperator (node.tokens dropped) ++ rest)
      (bracketExpr node.isOperator (node.toExpr dropped)) rest (node.height ≤ depth) := by
  cases isOperator : node.isOperator with
  | false =>
    exact (isRead.bare isOperator g depth rest isSteps isBelow begins plain).mono (by omega)
  | true =>
    have inner : Begins expressionWords [",", ")"] (.symbol ")" :: rest) :=
      .symbol ")" rest (by decide)
    have reads := isRead.reads enough isBelow inner (plain_cons.2 ⟨by decide, plain⟩)
    have bracketed := Grammar.reads_bracketed
      (readable.leads inner.behindTerm.behindOperand).1 readable.plain plain reads begins (by omega)
    simpa [bracketTokens, bracketExpr] using bracketed

/-- What is read alone is read where a literal of a type or a collation may stand too. -/
theorem Readable.reads_operandRule (readable : node.Readable) {g : Grammar} {rest : List Token}
    {shallow : Prop} (begins : Begins operandWords operandMarks rest) (plain : Plain rest)
    (reads : Reads g.bareOperand (node.tokens dropped ++ rest) (node.toExpr dropped) rest shallow) :
    Reads g.operandRule (node.tokens dropped ++ rest) (node.toExpr dropped) rest shallow :=
  Grammar.reads_operandRule (readable.leads begins).1 (plain_append.2 ⟨readable.plain, plain⟩)
    begins reads

/-- A literal is read at any depth. -/
theorem IsRead.of_literal (readable : node.Readable) (enough : 3 ≤ steps)
    (isLiteral : ∀ (g : Grammar) (rest : List Token),
      g.bareOperand (node.tokens dropped ++ rest) = some (node.toExpr dropped, rest)) :
    IsRead dropped steps node := by
  apply IsRead.of_bare enough
  intro g depth rest _ _ begins plain
  exact readable.reads_operandRule begins plain (.of_eq (isLiteral g rest))

theorem IsRead.field {path : String} (names : ∀ name ∈ Text.split '.' path, IsName name)
    (enough : 3 ≤ steps) (room : ((Node.field path).tokens dropped).length < steps) :
    IsRead dropped steps (.field path) := by
  apply IsRead.of_bare enough
  intro g depth rest isSteps _ begins plain
  apply (Readable.field path names).reads_operandRule begins plain
  have shorter := length_le_pathTokens (Text.split '.' path)
  rw [tokens] at room
  exact .of_eq (Grammar.bareOperand_path (Text.split_ne_nil path) names begins (by decide) (by decide)
    (by omega))

theorem IsRead.argument {argument : Node}
    (isRead : argument ≠ .raw "*" → argument.Readable ∧ IsRead dropped steps argument)
    (enough : 3 ≤ steps) (plainTokens : Plain (argument.tokens dropped)) {g : Grammar} {depth : Nat}
    {rest : List Token} (isBelow : g.below = Level.within steps depth)
    (begins : Begins [] [",", ")"] rest) (plain : Plain rest) :
    Reads g.argument (argument.tokens dropped ++ rest) (argument.toExpr dropped) rest
      (argument.height ≤ depth) := by
  have behind : Begins expressionWords [",", ")"] rest :=
    begins.mono (List.nil_subset _) fun _ isMark => isMark
  apply Reads.congr (Grammar.argument_of_plain (plain_append.2 ⟨plainTokens, plain⟩))
  by_cases isStar : argument = .raw "*"
  · subst isStar
    exact .of_eq rfl
  · rcases isRead isStar with ⟨readable, isRead⟩
    rcases readable.leads behind.behindTerm.behindOperand with ⟨leads, noPath⟩
    exact Grammar.reads_wildcardOrExpression leads noPath
      (isRead.reads enough isBelow behind plain)

theorem IsRead.call {name : String} {arguments : List Node} (isName : IsName name)
    (areRead : ∀ argument ∈ arguments, argument ≠ .raw "*" →
      argument.Readable ∧ IsRead dropped steps argument)
    (enough : 3 ≤ steps) (room : ((Node.call name arguments).tokens dropped).length < steps) :
    IsRead dropped steps (.call name arguments) := by
  apply IsRead.of_bare enough
  intro g depth rest isSteps isBelow begins plainRest
  have readable := Readable.call name arguments isName fun argument isArgument notStar =>
    (areRead argument isArgument notStar).1
  have closes : Begins [] [")"] (.symbol ")" :: rest) := .symbol ")" rest List.mem_cons_self
  have plainClose : Plain (.symbol ")" :: rest) := plain_cons.2 ⟨by decide, plainRest⟩
  have plainArguments : ∀ argument ∈ arguments, Plain (argument.tokens dropped) :=
    forall_argument (by simp [tokens]) fun argument isArgument notStar =>
      (areRead argument isArgument notStar).1.plain
  have roomArguments : (commaTokens (arguments.map (tokens dropped))).length < steps := by
    rw [tokens, allTokens_eq_map] at room
    simp only [List.length_cons, List.length_append] at room
    omega
  have list : Reads g.argumentList (distinctTokens (dropped.isDistinct name arguments) ++
        (commaTokens (arguments.map (tokens dropped)) ++ .symbol ")" :: rest))
      { before := wordIf (dropped.isDistinct name arguments) "DISTINCT"
        arguments := arguments.map (toExpr dropped) } rest
      ((Node.call name arguments).height ≤ depth + 1) := by
    cases arguments with
    | nil =>
      rw [dropped.isDistinct_nil]
      exact .of_eq rfl
    | cons first others =>
      apply Grammar.reads_argumentList
      · refine Leads.commas (forall_argument (fun rest _ => .of_symbol (by decide)) ?_) (by simp)
          (.symbol ")" rest (by decide))
        intro argument isArgument notStar rest begins
        exact ((areRead argument isArgument notStar).1.leads begins).1.mono (by simp)
      · have reads := Grammar.reads_commas isSteps roomArguments plainArguments
          (fun argument isArgument _ _ => IsRead.argument (areRead argument isArgument) enough
            (plainArguments argument isArgument) isBelow) (by simp) (by decide) closes plainClose
        refine reads.mono fun isShallow argument isArgument => ?_
        have lower := height_le_maxHeight isArgument
        rw [height] at isShallow
        omega
  have isCall := Grammar.bareOperand_of_free (g := g) isName.free
    (.symbol "(" :: (distinctTokens (dropped.isDistinct name arguments) ++
      (commaTokens (arguments.map (tokens dropped)) ++ .symbol ")" :: rest)))
  have reads := Reads.congr isCall (Grammar.reads_nameCall list begins)
  apply readable.reads_operandRule begins plainRest
  simpa [tokens, toExpr, allTokens_eq_map, allToExpr_eq_map] using reads

theorem IsRead.operator {op : String} {left right : Node} (isOp : op ∈ infixSymbols)
    (readableLeft : left.Readable) (readableRight : right.Readable)
    (isReadLeft : IsRead dropped steps left) (isReadRight : IsRead dropped steps right)
    (enough : 3 ≤ steps) :
    IsRead dropped steps (.operator op left right) := by
  refine ⟨nofun, ?_⟩
  intro prior depth length strength rest behind value shallow isWeak begins plain isShallow continues
  have isStrong := strengthOf_infixSymbol isOp
    (bracketTokens right.isOperator (right.tokens dropped) ++ rest)
  have weaker := strengthOf_le begins
  have isLow : Strength.and < Strength.comparison := by decide
  have areShallow : shallow → left.height ≤ depth ∧ right.height ≤ depth := by
    intro holds
    have bound := isShallow holds
    rw [height] at bound
    omega
  have plainRight : Plain (bracketTokens right.isOperator (right.tokens dropped) ++ rest) :=
    plain_append.2 ⟨plain_bracketTokens _ readableRight.plain, plain⟩
  have first := isReadLeft.operand readableLeft enough
    (Grammar.steps_within steps prior (Level.within steps depth) (length + 1))
    (Grammar.below_within _ _ _ _)
    (.symbol op (bracketTokens right.isOperator (right.tokens dropped) ++ rest)
      (List.mem_append_right _ isOp))
    (plain_cons.2 ⟨plain_infixSymbol isOp, plainRight⟩)
  have second := isReadRight.operand readableRight enough
    (Grammar.steps_within steps prior (Level.within steps depth) length)
    (Grammar.below_within _ _ _ _)
    begins.behindOperand plain
  have enoughRight : 0 < (Grammar.within steps prior (Level.within steps depth) length).steps := by
    rw [Grammar.steps_within]
    omega
  rw [tokens, List.append_assoc, List.cons_append]
  refine .bind (first.mono fun holds => (areShallow holds).1) ?_
  rw [Grammar.steps_within]
  rcases Nat.exists_eq_add_of_le' enough with ⟨more, rfl⟩
  refine Grammar.reads_continued (Grammar.binaryOperator?_infixSymbol isOp _) (by omega)
    (readableRight.leads_operand begins.behindOperand) ?_ (continues (more + 2) (by omega))
  -- Nothing behind the second operand binds as strongly as the operator, so that it is taken alone.
  exact .bind (second.mono fun holds => (areShallow holds).2)
    (.of_eq (Grammar.continued_ends (by omega) enoughRight))

theorem IsRead.conditional {op : String} {left right : Node} (isOp : op = "AND" ∨ op = "OR")
    (readableLeft : left.Readable) (readableRight : right.Readable)
    (isReadLeft : IsRead dropped steps left) (isReadRight : IsRead dropped steps right)
    (enough : 3 ≤ steps) :
    IsRead dropped steps (.conditional op left right) := by
  apply IsRead.of_bare enough
  intro g depth rest isSteps isBelow begins plainRest
  have closes : Begins expressionWords [",", ")"] (.symbol ")" :: rest) :=
    .symbol ")" rest (by decide)
  have plainClose : Plain (.symbol ")" :: rest) := plain_cons.2 ⟨by decide, plainRest⟩
  have links : Begins operandWords [",", ")"]
      (.word op :: (right.tokens dropped ++ .symbol ")" :: rest)) := by
    apply Begins.word
    rcases isOp with rfl | rfl <;> decide
  have plainLink : Plain (.word op :: (right.tokens dropped ++ .symbol ")" :: rest)) := by
    simp [readableRight.plain, plainRest]
  have reads : Reads g.expression
      (left.tokens dropped ++ .word op :: (right.tokens dropped ++ .symbol ")" :: rest))
      (.binary op (left.toExpr dropped) (right.toExpr dropped)) (.symbol ")" :: rest)
      ((Node.conditional op left right).height ≤ depth + 1) := by
    rw [Grammar.expression, isBelow]
    cases depth with
    | zero =>
      -- No level is left for what is inside the brackets.
      have deep := left.height_pos
      refine .inr ⟨rfl, ?_⟩
      rw [height]
      omega
    | succ depth =>
      rcases Nat.exists_eq_add_of_le' enough with ⟨more, rfl⟩
      have strong := strengthOf_link isOp (right.tokens dropped ++ .symbol ")" :: rest)
      have weak := strengthOf_le links
      apply isReadLeft.whole g.prior depth (more + 2) 0 _ _ _ _ (by decide) links plainLink
      · rw [height]
        omega
      · intro steps someSteps
        rcases Nat.exists_eq_add_of_le' someSteps with ⟨fewer, rfl⟩
        apply Grammar.reads_continued (Grammar.binaryOperator?_link isOp _) strong
          (readableRight.leads closes.behindTerm.behindOperand).1
        · apply isReadRight.whole g.prior depth (more + 1) _ _ _ _ _ weak closes.behindTerm plainClose
          · rw [height]
            omega
          · intro steps someSteps
            have ends := strengthOf_ends closes
            exact .of_eq (Grammar.continued_ends (by omega) (by omega))
        · have ends := strengthOf_ends closes
          exact .of_eq (Grammar.continued_ends (by omega) (by omega))
  have leads : Leads ["("] (left.tokens dropped ++ _) :=
    (readableLeft.leads links.behindOperand).1
  have plain : Plain (left.tokens dropped ++ .word op :: right.tokens dropped) := by
    simp [readableLeft.plain, readableRight.plain]
  have bracketed := Grammar.reads_bracketed (by simpa using leads) plain plainRest
    (by simpa using reads) begins (by omega)
  simpa [tokens, toExpr] using bracketed

theorem Readable.isRead (readable : node.Readable) (enough : 3 ≤ steps)
    (room : (node.tokens dropped).length < steps) : IsRead dropped steps node := by
  induction readable with
  | field path names => exact IsRead.field names enough room
  | number text decimal => exact .of_literal (.number text decimal) enough fun _ _ => rfl
  | string text => exact .of_literal (.string text) enough fun _ _ => rfl
  | bool value =>
    cases value with
    | true => exact .of_literal (.bool true) enough fun _ _ => rfl
    | false => exact .of_literal (.bool false) enough fun _ _ => rfl
  | null => exact .of_literal .null enough fun _ _ => rfl
  | call name arguments isName readable ih =>
    refine IsRead.call isName ?_ enough room
    intro argument isArgument notStar
    refine ⟨readable argument isArgument notStar, ih argument isArgument notStar ?_⟩
    have shorter := length_le_of_mem_commaTokens
      (List.mem_map_of_mem (f := tokens dropped) isArgument)
    rw [tokens, allTokens_eq_map] at room
    simp only [List.length_cons, List.length_append] at room
    omega
  | operator op left right isOp readableLeft readableRight ihLeft ihRight =>
    have roomLeft := length_le_bracketTokens left.isOperator (left.tokens dropped)
    have roomRight := length_le_bracketTokens right.isOperator (right.tokens dropped)
    simp only [tokens, List.length_append, List.length_cons] at room
    exact .operator isOp readableLeft readableRight (ihLeft (by omega)) (ihRight (by omega)) enough
  | conditional op left right isOp readableLeft readableRight ihLeft ihRight =>
    simp only [tokens, List.length_append, List.length_cons] at room
    exact .conditional isOp readableLeft readableRight (ihLeft (by omega)) (ihRight (by omega)) enough

/-- The names of a path are read as such at every depth that reads anything. -/
theorem reads_path {names : List String} (nonempty : names ≠ [])
    (areNames : ∀ name ∈ names, IsName name) (room : names.length < steps) {prior : Bool}
    {depth : Nat} {rest : List Token} {shallow : Prop}
    (begins : Begins expressionWords [",", ")"] rest) (plain : Plain rest) :
    Reads ((Level.within steps (depth + 1)).expression prior) (pathTokens names ++ rest)
      (pathExpr names) rest shallow := by
  have behind := begins.behindTerm.behindOperand
  have isSteps : (Grammar.within steps prior (Level.within steps depth) steps).steps = steps :=
    Grammar.steps_within _ _ _ _
  have isPath := Grammar.bareOperand_path nonempty areNames behind (by decide) (by decide)
    (g := Grammar.within steps prior (Level.within steps depth) steps) (by rwa [isSteps])
  have ends := strengthOf_ends begins
  exact .bind (Grammar.reads_operandRule (leads_path _ nonempty areNames behind).1
    (plain_append.2 ⟨plain_pathTokens names, plain⟩) behind (.of_eq isPath))
    (.of_eq (Grammar.continued_ends (by omega) (by omega)))

end Node

end SearchSql
