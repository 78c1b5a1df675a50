import SearchSql.Sql.Grammar.TypeName

/-!
# Operators

What may follow an operand. `nextStrength` says how strongly the next token binds what is before it,
zero where it cannot follow an operand, and `Grammar.continued` goes on with an expression for as
long as what follows binds more strongly than asked.
-/

namespace SearchSql.Sql

open SearchSql.Sql.Parser

/-- The symbols between two operands: how strongly they bind, and how they are written. -/
def symbolOperators : Table (Nat × String) := [
  ("=", Strength.comparison, "="), ("==", Strength.comparison, "="),
  ("!=", Strength.comparison, "<>"), ("<>", Strength.comparison, "<>"),
  ("<", Strength.comparison, "<"), ("<=", Strength.comparison, "<="),
  (">", Strength.comparison, ">"), (">=", Strength.comparison, ">="),
  ("<=>", Strength.comparison, "<=>"),
  ("~", Strength.comparison, "~"), ("~*", Strength.comparison, "~*"),
  ("!~", Strength.comparison, "!~"), ("!~*", Strength.comparison, "!~*"),
  ("~~", Strength.comparison, "~~"), ("~~*", Strength.comparison, "~~*"),
  ("!~~", Strength.comparison, "!~~"), ("!~~*", Strength.comparison, "!~~*"),
  ("|", Strength.bitOr, "|"), ("^", Strength.bitXor, "^"), ("<<", Strength.bitXor, "<<"),
  (">>", Strength.bitXor, ">>"), ("&", Strength.bitAnd, "&"),
  ("+", Strength.sum, "+"), ("-", Strength.sum, "-"),
  ("*", Strength.product, "*"), ("/", Strength.product, "/"), ("%", Strength.product, "%"),
  ("//", Strength.product, "//"), ("||", Strength.product, "||"),
  ("&&", Strength.postfixed, "&&"), ("^@", Strength.postfixed, "^@"),
  ("->", Strength.access, "->"), ("->>", Strength.access, "->>"), ("#>", Strength.access, "#>"),
  ("#>>", Strength.access, "#>>"), ("@>", Strength.access, "@>"), ("<@", Strength.access, "<@"),
  ("#-", Strength.access, "#-"), ("@?", Strength.access, "@?"), ("@@", Strength.access, "@@")]

/-- The words between two operands, with how strongly they bind. -/
def wordOperators : Table Nat :=
  [("AND", Strength.and), ("OR", Strength.or), ("XOR", Strength.xor)]

/-- The words that ask something of the operand before them. -/
def predicateWords : Table Nat := [
  ("IS", Strength.is), ("IN", Strength.comparison), ("BETWEEN", Strength.comparison),
  ("LIKE", Strength.like), ("ILIKE", Strength.like), ("RLIKE", Strength.like),
  ("REGEXP", Strength.like), ("SIMILAR", Strength.like)]

/-- The comparisons that may have ANY or ALL before their right side. -/
def quantifiedOperators : List String := ["=", "<>", "<", "<=", ">", ">="]

/-- How strongly a word binds the operand before it, by the words that follow. -/
def wordStrength (word : String) (following : List Token) : Nat :=
  match word with
  | "AT" =>
    if (following.take 2).map Token.keyword? = [some "TIME", some "ZONE"] then Strength.zone else 0
  | "NOT" =>
    match following.head?.bind Token.keyword? with
    | some "IS" => 0
    | some negated => (Table.get? predicateWords negated).getD 0
    | none => 0
  | "OPERATOR" => Strength.comparison
  | "DIV" => Strength.product
  | word => ((Table.get? wordOperators word).or (Table.get? predicateWords word)).getD 0

def symbolStrength (mark : String) : Nat :=
  match Table.get? symbolOperators mark with
  | some (strength, _) => strength
  | none =>
    if ["::", "!", "["].contains mark then Strength.postfixed
    else if mark = "#" then Strength.bitXor
    else 0

def strengthOf : List Token → Nat
  | .word text :: rest => wordStrength (keywordForm text) rest
  | .symbol mark :: _ => symbolStrength mark
  | _ => 0

/-- How strongly the next token binds what is before it. -/
def nextStrength : Parser Nat := fun tokens => some (strengthOf tokens, tokens)

/-- How strongly the next token binds the amount of an interval. -/
def intervalStrength : Parser Nat := do
  match ← peekKeyword with
  | some "AND" => return 0
  | some "OR" => return 0
  | some "XOR" => return 0
  | _ => nextStrength

/-- An operator that is written by its name in brackets. -/
def operatorName (g : Grammar) : Parser String :=
  inBrackets do
    let first ← next
    let more ← repeated g.steps do
      if ← symbol? "." then some <$> next else pure none
    return "OPERATOR(" ++ ".".intercalate ((first :: more).map Token.text) ++ ")"

/-- An operator between two operands, if one stands there. -/
def binaryOperator? (g : Grammar) : Parser (Option String) := do
  match ← peek with
  | some (.symbol mark) =>
    match Table.get? symbolOperators mark with
    | some (_, text) =>
      let _ ← next
      return some text
    | none => return none
  | some (.word text) =>
    let word := keywordForm text
    if Table.has wordOperators word then
      let _ ← next
      return some word
    else if word = "OPERATOR" then
      let _ ← next
      return some (← operatorName g)
    else return none
  | _ => return none

namespace Grammar

/-- The right side of an operator. -/
def rightSide (g : Grammar) (left : Expr) (op : String) (strength : Nat) : Parser Expr := do
  match ← oneOf? ["ANY", "ALL"] with
  | some quantifier =>
    let right ← inBrackets (g.operation strength)
    guard (quantifiedOperators.contains op)
    return .phrase (left.text ++ " " ++ op ++ " " ++ quantifier ++ "(" ++ right.text ++ ")")
  | none => return .binary op left (← g.operation strength)

/-- What is said of the left side after IS. -/
def isForm (g : Grammar) (left : Expr) : Parser Expr := do
  let negated ← keyword? "NOT"
  if ← keyword? "NULL" then return .isNull left negated
  let text ← match ← oneOf? ["TRUE", "FALSE", "UNKNOWN"] with
    | some word => pure word
    | none => do
      keywords ["DISTINCT", "FROM"]
      pure ("DISTINCT FROM " ++ (← g.expressionText))
  return .phrase (left.text ++ " IS " ++ wordIf negated "NOT" ++ text)

/-- The values that the left side is looked for in. -/
def inForm (g : Grammar) (left : Expr) (negated : Bool) : Parser Expr := do
  let start := left.text ++ " " ++ wordIf negated "NOT" ++ "IN "
  if ← keyword? "UNNEST" then
    return .phrase (start ++ "UNNEST(" ++ (← inBrackets g.expressionText) ++ ")")
  inBrackets do
    if ((← peekKeyword).map ["SELECT", "WITH"].contains).getD false then
      return .phrase (start ++ "(" ++ (← g.query).text ++ ")")
    else return .inList left (← g.expressions) negated

def betweenForm (g : Grammar) (left : Expr) (negated : Bool) : Parser Expr := do
  let low ← g.operation Strength.comparison
  keyword "AND"
  let high ← g.operation Strength.comparison
  return .phrase (left.text ++ " " ++ wordIf negated "NOT" ++ "BETWEEN " ++ low.text ++ " AND " ++
    high.text)

/-- A pattern, with the character that takes away the meaning of its signs. -/
def patternForm (g : Grammar) (left : Expr) (negated : Bool) (word : String) (escapable : Bool) :
    Parser Expr := do
  let pattern ← g.operation Strength.like
  let escape ← if escapable then after? "ESCAPE" literalString else pure none
  return .phrase (left.text ++ " " ++ wordIf negated "NOT" ++ word ++ " " ++ pattern.text ++
    optionText (fun mark => " ESCAPE " ++ enclosed '\'' mark) escape)

/-- What a word asks of the left side. RLIKE behind REGEXP says nothing more. -/
def predicateForm (g : Grammar) (left : Expr) : Parser Expr := do
  let negated ← keyword? "NOT"
  if ← keyword? "REGEXP" then
    let _ ← keyword? "RLIKE"
    return ← g.patternForm left negated "REGEXP" false
  match ← oneOf ["IN", "BETWEEN", "LIKE", "ILIKE", "RLIKE", "SIMILAR"] with
  | "IN" => g.inForm left negated
  | "BETWEEN" => g.betweenForm left negated
  | "SIMILAR" =>
    keyword "TO"
    g.patternForm left negated "SIMILAR TO" true
  | "LIKE" => g.patternForm left negated "LIKE" true
  | "ILIKE" => g.patternForm left negated "ILIKE" true
  | word => g.patternForm left negated word false

/-- An index or a slice of the left side, after the opening bracket. -/
def subscriptForm (g : Grammar) (left : Expr) : Parser Expr := do
  let hasColon ← nextIsSymbol ":"
  let lower ← if hasColon then pure "" else g.expressionText
  let slice (text : String) : Expr := .phrase (left.text ++ "[" ++ text ++ "]")
  if !hasColon && (← symbol? "]") then return slice lower
  symbol ":"
  if ← symbol? "]" then return slice (lower ++ ":")
  let upper ← g.expressionText
  if ← symbol? "]" then return slice (lower ++ ":" ++ upper)
  symbol ":"
  if ← symbol? "]" then return slice (lower ++ ":" ++ upper)
  let stride ← g.expressionText
  symbol "]"
  return slice (lower ++ ":" ++ upper ++ ":" ++ stride)

/-- The left side with what stands behind it, which binds it as strongly as the number says. -/
def continuation (g : Grammar) (left : Expr) (strength : Nat) : Parser Expr := do
  match ← binaryOperator? g with
  | some op => g.rightSide left op strength
  | none =>
    if ← symbol? "::" then return .phrase (left.text ++ "::" ++ (← g.typeName).text)
    else if ← symbol? "!" then return .phrase (left.text ++ "!")
    else if ← symbol? "[" then g.subscriptForm left
    else if ← keyword? "IS" then g.isForm left
    else if ← keyword? "AT" then
      keywords ["TIME", "ZONE"]
      return .phrase (left.text ++ " AT TIME ZONE " ++ (← g.operation strength).text)
    else g.predicateForm left

/-- Goes on with an expression while what follows binds more strongly than the number says. -/
def continued (g : Grammar) (following : Parser Nat) (steps strength : Nat) (left : Expr) :
    Parser Expr :=
  match steps with
  | 0 => failure
  | steps + 1 => do
    let next ← following
    if strength < next then
      g.continued following steps strength (← g.continuation left next)
    else return left

end Grammar

end SearchSql.Sql
