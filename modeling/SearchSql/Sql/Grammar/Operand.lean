import SearchSql.Sql.Grammar.Call
import SearchSql.Sql.Grammar.Operator
import SearchSql.Sql.Grammar.TypeName

/-!
# Operands

What an expression can begin with: a name, a call, a literal, an expression in brackets, or one of
the forms that a keyword leads. A keyword that leads a form is a name where the form asks for a
bracket behind it that is not there, and in quotes every word is one.
-/

namespace SearchSql.Sql

open SearchSql.Sql.Parser

/-- The parts of a time that have a keyword. -/
def timeFields : List String := [
  "YEAR", "MONTH", "WEEK", "DAY", "DAYOFWEEK", "DAYOFYEAR", "DATE", "DATETIME", "HOUR", "MINUTE",
  "SECOND", "CENTURY", "DECADE", "DOY", "DOW", "EPOCH", "ISODOW", "ISOYEAR", "ISOWEEK", "JULIAN",
  "MICROSECOND", "MICROSECONDS", "MILLENIUM", "MILLENNIUM", "MILLISECOND", "MILLISECONDS",
  "NANOSECOND", "NANOSECONDS", "QUARTER", "TIME", "TIMEZONE", "TIMEZONE_ABBR", "TIMEZONE_HOUR",
  "TIMEZONE_MINUTE", "TIMEZONE_REGION"]

/-- The parts of a time that an interval can be counted in. -/
def intervalUnits : List String := [
  "YEAR", "MONTH", "WEEK", "DAY", "HOUR", "MINUTE", "SECOND", "CENTURY", "DECADE", "DOW", "DOY",
  "EPOCH", "ISODOW", "ISOYEAR", "JULIAN", "MICROSECOND", "MICROSECONDS", "MILLENIUM",
  "MILLENNIUM", "MILLISECOND", "MILLISECONDS", "NANOSECOND", "NANOSECONDS", "QUARTER", "TIMEZONE",
  "TIMEZONE_HOUR", "TIMEZONE_MINUTE"]

/-- A part of a time; a word that is none of them, or a string, names a part of its own. -/
def timeField : Parser String := do
  match ← next with
  | .word text =>
    let form := keywordForm text
    if form = "WEEK" then
      if ← symbol? "(" then
        let day ← identifier
        symbol ")"
        return "WEEK(" ++ day.text ++ ")"
      else return form
    else if timeFields.contains form then return form
    else return text
  | .quoted quote text => return quotedText quote text
  | .string text => return stringText text
  | _ => failure

/-- The string behind the name of a character set. -/
def introducedString : Parser String := do
  match ← next with
  | .string text => return stringText text
  | .literal .hexadecimal value => return LiteralForm.hexadecimal.text value
  | _ => failure

namespace Grammar

/-- The amount of an interval, which ends before AND, OR and XOR. -/
def intervalValue (g : Grammar) : Parser Expr := do
  let first ← g.operand
  g.continued intervalStrength g.steps 0 first

/-- An interval, after its keyword. -/
def interval (g : Grammar) : Parser Expr := do
  let value ← g.intervalValue
  let hasUnit := ((← peekKeyword).map intervalUnits.contains).getD false
  let unit ← if hasUnit then some <$> timeField else pure none
  let start := "INTERVAL " ++ value.text ++ optionText (" " ++ ·) unit
  if unit = some "SECOND" then
    match ← precisionAndScale? with
    | none => return .phrase start
    | some (precision, scale) =>
      return .phrase (start ++ " (" ++ precision ++ optionText (", " ++ ·) scale ++ ")")
  else
    let precision ← precision?
    let start := start ++ optionText (fun precision => " (" ++ precision ++ ")") precision
    if ← keyword? "TO" then
      let last ← timeField
      let fraction ← if last = "SECOND" then precision? else pure none
      return .phrase (start ++ " TO " ++ last ++
        optionText (fun fraction => " (" ++ fraction ++ ")") fraction)
    else return .phrase start

/-- A string with the type that it is to have, or an interval. -/
def typedString (g : Grammar) : Parser Expr := do
  let type ← g.typeName
  match type.family with
  | .interval => g.interval
  | .custom => failure
  | .builtin => return .phrase (type.text ++ " " ++ stringText (← literalString))

def caseForm (g : Grammar) : Parser Expr := do
  let operand ← if ← keyword? "WHEN" then pure "" else
    let operand ← g.expressionText
    keyword "WHEN"
    pure (" " ++ operand)
  let branch : Parser String := do
    let condition ← g.expressionText
    keyword "THEN"
    return " WHEN " ++ condition ++ " THEN " ++ (← g.expressionText)
  let first ← branch
  let more ← repeated g.steps (after? "WHEN" branch)
  let otherwise ← after? "ELSE" g.expressionText
  keyword "END"
  return .phrase ("CASE" ++ operand ++ first ++ String.join more ++
    optionText (clauseText "ELSE") otherwise ++ " END")

def castForm (g : Grammar) (word : String) : Parser Expr :=
  inBrackets do
    let value ← g.expressionText
    keyword "AS"
    let type ← g.typeName
    let format ← after? "FORMAT" do
      let format ← literal
      let zone ← afterWords? ["AT", "TIME", "ZONE"] literal
      return format.text ++ optionText (clauseText "AT TIME ZONE") (zone.map Expr.text)
    return .phrase (word ++ "(" ++ value ++ " AS " ++ type.text ++
      optionText (clauseText "FORMAT") format ++ ")")

def convertForm (g : Grammar) : Parser Expr :=
  inBrackets do
    let value ← g.expressionText
    if ← keyword? "USING" then
      return .phrase ("CONVERT(" ++ value ++ " USING " ++ (← g.objectNameText) ++ ")")
    symbol ","
    let type ← g.typeName
    let characters ← afterWords? ["CHARACTER", "SET"] g.objectNameText
    return .phrase ("CONVERT(" ++ value ++ ", " ++ type.text ++
      optionText (clauseText "CHARACTER SET") characters ++ ")")

def existsForm (g : Grammar) (negated : Bool) : Parser Expr :=
  inBrackets do return .phrase (wordIf negated "NOT" ++ "EXISTS (" ++ (← g.query).text ++ ")")

def extractForm (g : Grammar) : Parser Expr :=
  inBrackets do
    let field ← timeField
    let between ← if ← keyword? "FROM" then pure " FROM " else
      symbol ","
      pure ", "
    return .phrase ("EXTRACT(" ++ field ++ between ++ (← g.expressionText) ++ ")")

/-- CEIL or FLOOR, to a part of a time or a number of places. -/
def roundingForm (g : Grammar) (word : String) : Parser Expr :=
  inBrackets do
    let value ← g.expressionText
    let places ← if ← keyword? "TO" then pure (" TO " ++ (← timeField))
      else if ← symbol? "," then
        match ← literal with
        | .number text long => pure (", " ++ (Expr.number text long).text)
        | _ => failure
      else pure ""
    return .phrase (word ++ "(" ++ value ++ places ++ ")")

/-- POSITION with IN between its operands, or else a call of the name. -/
def positionForm (g : Grammar) (name : Identifier) : Parser Expr := do
  let position ← attempt <| inBrackets do
    let part ← g.operation Strength.comparison
    keyword "IN"
    return Expr.phrase ("POSITION(" ++ part.text ++ " IN " ++ (← g.expressionText) ++ ")")
  match position with
  | some position => return position
  | none => g.call g.interval [name]

def substringForm (g : Grammar) : Parser Expr :=
  inBrackets do
    let value ← g.expressionText
    let isList ← symbol? ","
    let start ← if isList then some <$> g.expressionText else after? "FROM" g.expressionText
    let length ← if ← keyword? "FOR" then some <$> g.expressionText
      else if ← symbol? "," then some <$> g.expressionText
      else pure none
    let part (word : String) : Option String → String :=
      optionText fun text => if isList then ", " ++ text else clauseText word text
    return .phrase ("SUBSTRING(" ++ value ++ part "FROM" start ++ part "FOR" length ++ ")")

def overlayForm (g : Grammar) : Parser Expr :=
  inBrackets do
    let value ← g.expressionText
    keyword "PLACING"
    let replacement ← g.expressionText
    keyword "FROM"
    let start ← g.expressionText
    let length ← after? "FOR" g.expressionText
    return .phrase ("OVERLAY(" ++ value ++ " PLACING " ++ replacement ++ " FROM " ++ start ++
      optionText (clauseText "FOR") length ++ ")")

/-- TRIM. The side is not kept where the characters to trim follow a comma. -/
def trimForm (g : Grammar) : Parser Expr :=
  inBrackets do
    let side ← oneOf? ["BOTH", "LEADING", "TRAILING"]
    let side := optionText (· ++ " ") side
    let first ← g.expressionText
    if ← keyword? "FROM" then
      return .phrase ("TRIM(" ++ side ++ first ++ " FROM " ++ (← g.expressionText) ++ ")")
    else if ← symbol? "," then
      return .phrase ("TRIM(" ++ first ++ ", " ++ (← g.expressionsText) ++ ")")
    else return .phrase ("TRIM(" ++ side ++ first ++ ")")

def arrayForm (g : Grammar) (word : String) : Parser Expr := do
  let items ← commaSeparatedUntil g.steps "]" g.expression
  symbol "]"
  return .phrase (word ++ "[" ++ commaText (items.map Expr.text) ++ "]")

def matchForm (g : Grammar) : Parser Expr := do
  let columns ← g.columnList
  keyword "AGAINST"
  inBrackets do
    let value ← literal
    let mode ← if ← keywords? ["IN", "NATURAL", "LANGUAGE", "MODE"] then
        if ← keywords? ["WITH", "QUERY", "EXPANSION"] then
          pure " IN NATURAL LANGUAGE MODE WITH QUERY EXPANSION"
        else pure " IN NATURAL LANGUAGE MODE"
      else if ← keywords? ["IN", "BOOLEAN", "MODE"] then pure " IN BOOLEAN MODE"
      else if ← keywords? ["WITH", "QUERY", "EXPANSION"] then pure " WITH QUERY EXPANSION"
      else pure ""
    return .phrase ("MATCH (" ++ columns ++ ") AGAINST (" ++ value.text ++ mode ++ ")")

/-- A structure with its values, which may be named where the fields have no types. -/
def structForm (g : Grammar) : Parser Expr := do
  let fields ← if ← symbol? "<" then
      let (fields, closed) ← structFields g.steps (g.openType g.steps)
      guard !closed
      pure (some (commaText fields))
    else pure none
  let values ← inBrackets <| g.commas do
    let value ← g.expressionText
    if ← keyword? "AS" then
      guard fields.isNone
      return value ++ " AS " ++ (← identifier).text
    else return value
  return .phrase ("STRUCT" ++ optionText (fun fields => "<" ++ fields ++ ">") fields ++
    "(" ++ commaText values ++ ")")

/-- An entry of a literal in braces. -/
def entryText (g : Grammar) (key : Parser String) : Parser String := do
  let key ← key
  symbol ":"
  return key ++ ": " ++ (← g.expressionText)

def mapForm (g : Grammar) : Parser Expr := do
  symbol "\x7b"
  let entries ← commaSeparatedUntil g.steps "\x7d" (g.entryText g.expressionText)
  symbol "\x7d"
  return .phrase ("MAP \x7b" ++ commaText entries ++ "\x7d")

def dictionaryForm (g : Grammar) : Parser Expr := do
  let entries ← g.commas (g.entryText do return (← identifier).text)
  symbol "\x7d"
  return .phrase ("\x7b" ++ commaText entries ++ "\x7d")

/-- A name, with the names below it, a call, or a string in a character set. -/
def nameOperand (g : Grammar) (name : Identifier) : Parser Expr := do
  match ← peek with
  | some (.symbol ".") =>
    let more ← repeated g.steps do
      if ← symbol? "." then some <$> identifier else pure none
    if ← nextIsSymbol "(" then g.call g.interval (name :: more)
    else return .compound (name :: more)
  | some (.symbol "(") => g.call g.interval [name]
  | some (.string _) =>
    if name.value.startsWith "_" then return .phrase (name.value ++ " " ++ (← introducedString))
    else return .identifier name
  | some (.literal .hexadecimal _) =>
    if name.value.startsWith "_" then return .phrase (name.value ++ " " ++ (← introducedString))
    else return .identifier name
  | _ => return .identifier name

/-- An operand that begins with the word, by its keyword. -/
def wordOperand (g : Grammar) (word : String) : Parser Expr := do
  let name : Identifier := ⟨word, none⟩
  match keywordForm word with
  | "TRUE" => return .bool true
  | "FALSE" => return .bool false
  | "NULL" => return .null
  | "CURRENT_CATALOG" => return .call [name] "" [] ""
  | "CURRENT_USER" => return .call [name] "" [] ""
  | "SESSION_USER" => return .call [name] "" [] ""
  | "USER" => return .call [name] "" [] ""
  | "CURRENT_TIMESTAMP" => g.timeCall name
  | "CURRENT_TIME" => g.timeCall name
  | "CURRENT_DATE" => g.timeCall name
  | "LOCALTIME" => g.timeCall name
  | "LOCALTIMESTAMP" => g.timeCall name
  | "CASE" => g.caseForm
  | "CONVERT" => g.convertForm
  | "CAST" => g.castForm "CAST"
  | "TRY_CAST" => g.castForm "TRY_CAST"
  | "SAFE_CAST" => g.castForm "SAFE_CAST"
  | "EXISTS" => g.existsForm false
  | "EXTRACT" => g.extractForm
  | "CEIL" => g.roundingForm "CEIL"
  | "FLOOR" => g.roundingForm "FLOOR"
  | "POSITION" => if ← nextIsSymbol "(" then g.positionForm name else g.nameOperand name
  | "SUBSTRING" => g.substringForm
  | "OVERLAY" => g.overlayForm
  | "TRIM" => g.trimForm
  | "INTERVAL" => g.interval
  | "ARRAY" =>
    if ← symbol? "[" then g.arrayForm "ARRAY"
    else if ← nextIsSymbol "(" then
      inBrackets do return .subqueryCall (word ++ "(" ++ (← g.query).text ++ ")")
    else g.nameOperand name
  | "NOT" =>
    if ← keyword? "EXISTS" then g.existsForm true
    else return .negation (← g.operation Strength.not)
  | "MATCH" => g.matchForm
  | "STRUCT" => g.structForm
  | "PRIOR" =>
    if g.prior then return .phrase ("PRIOR " ++ (← g.operation Strength.sum).text)
    else g.nameOperand name
  | "MAP" => if ← nextIsSymbol "\x7b" then g.mapForm else g.nameOperand name
  | _ => g.nameOperand name

/-- A query or expressions, after an opening bracket. A dot behind leads to a field of the value. -/
def bracketOperand (g : Grammar) : Parser Expr := do
  let isQuery := ((← peekKeyword).map ["SELECT", "WITH"].contains).getD false
  let value ← if isQuery then pure (Expr.phrase ("(" ++ (← g.query).text ++ ")")) else
    match ← g.expressions with
    | [single] => pure (Expr.bracketed single)
    | items => pure (Expr.phrase ("(" ++ commaText (items.map Expr.text) ++ ")"))
  symbol ")"
  if ← symbol? "." then
    match (← next).name? with
    | some name => return .phrase (value.text ++ "." ++ name.text)
    | none => failure
  else return value

/-- An operand that begins with the symbol. -/
def symbolOperand (g : Grammar) (mark : String) : Parser Expr := do
  match mark with
  | "(" => g.bracketOperand
  | "-" => return .phrase ("-" ++ (← g.operation Strength.product).text)
  | "+" => return .phrase ("+" ++ (← g.operation Strength.product).text)
  | "[" => g.arrayForm ""
  | ":" => return .phrase (":" ++ (← placeholderName))
  | "@" => return .phrase ("@" ++ (← placeholderName))
  | "\x7b" => g.dictionaryForm
  | _ => failure

def bareOperand (g : Grammar) : Parser Expr := do
  match ← next with
  | .word text => g.wordOperand text
  | .quoted quote text => g.nameOperand ⟨text, some quote⟩
  | .number text long => return .number text long
  | .string text => return .string text
  | .literal form value => return .phrase (form.text value)
  | .placeholder text => return .phrase text
  | .symbol mark => g.symbolOperand mark

/-- An operand without what may stand behind it. -/
def operandRule (g : Grammar) : Parser Expr := do
  match ← attempt g.typedString with
  | some typed => return typed
  | none =>
    let value ← g.bareOperand
    if ← keyword? "COLLATE" then
      return .phrase (value.text ++ " COLLATE " ++ (← g.objectNameText))
    else return value

/-- An expression whose operators bind more strongly than the number says. -/
def expressionRule (g : Grammar) (strength : Nat) : Parser Expr := do
  let first ← g.operandRule
  g.continued nextStrength g.steps strength first

end Grammar

end SearchSql.Sql
