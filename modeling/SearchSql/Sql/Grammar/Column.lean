import SearchSql.Sql.Grammar.Basic

/-!
# Columns

The definition of a column: its name and its type, and what is said of its values. Columns define
tables, and also the fields of a nested type; the parser of types is therefore a parameter here.
-/

namespace SearchSql.Sql

open SearchSql.Sql.Parser

/-- What becomes of a row when a row that it refers to changes. -/
def referenceAction : Parser String := do
  if ← keyword? "RESTRICT" then return "RESTRICT"
  else if ← keyword? "CASCADE" then return "CASCADE"
  else if ← keywords? ["SET", "NULL"] then return "SET NULL"
  else if ← keywords? ["NO", "ACTION"] then return "NO ACTION"
  else
    keywords ["SET", "DEFAULT"]
    return "SET DEFAULT"

/-- The actions on deletion and on update, each of them once at most and in either order. -/
def referenceActions : Parser String := do
  let action (event : String) : Parser (Option String) := do
    if ← keywords? ["ON", event] then some <$> referenceAction else pure none
  let deletion ← action "DELETE"
  let update ← action "UPDATE"
  let deletion ← if deletion.isNone && update.isSome then action "DELETE" else pure deletion
  return optionText (clauseText "ON DELETE") deletion ++ optionText (clauseText "ON UPDATE") update

/-- When a constraint is checked, as far as it is said. -/
structure ConstraintTraits where
  deferrable : Option String := none
  initially : Option String := none
  enforced : Option String := none

namespace ConstraintTraits

/-- The traits in their normal order, each with a space in front. -/
def text (traits : ConstraintTraits) : String :=
  let given := [traits.deferrable, traits.initially, traits.enforced].filterMap id
  String.join (given.map (" " ++ ·))

/-- The traits with one more of them, if another stands there that is not yet given. -/
def extended? (traits : ConstraintTraits) : Parser (Option ConstraintTraits) := do
  if traits.deferrable.isNone then
    if ← keywords? ["NOT", "DEFERRABLE"] then
      return some { traits with deferrable := some "NOT DEFERRABLE" }
    if ← keyword? "DEFERRABLE" then return some { traits with deferrable := some "DEFERRABLE" }
  if traits.initially.isNone then
    if ← keyword? "INITIALLY" then
      let time ← oneOf ["DEFERRED", "IMMEDIATE"]
      return some { traits with initially := some ("INITIALLY " ++ time) }
  if traits.enforced.isNone then
    if ← keyword? "ENFORCED" then return some { traits with enforced := some "ENFORCED" }
    if ← keywords? ["NOT", "ENFORCED"] then
      return some { traits with enforced := some "NOT ENFORCED" }
  return none

/-- Three traits at most can be added. -/
def read : (left : Nat) → ConstraintTraits → Parser ConstraintTraits
  | 0, traits => pure traits
  | left + 1, traits => do
    match ← traits.extended? with
    | some more => read left more
    | none => return traits

end ConstraintTraits

def constraintTraits : Parser String := do
  return (← ConstraintTraits.read 3 {}).text

/-- How the numbers of a sequence follow each other; the order of the parts is fixed. -/
def sequenceTraits : Parser String := do
  let increment ← after? "INCREMENT" do
    return (if ← keyword? "BY" then " INCREMENT BY " else " INCREMENT ") ++ (← signedNumber)
  let bound (word : String) : Parser (Option String) := do
    if ← keyword? word then return some (clauseText word (← signedNumber))
    else if ← keywords? ["NO", word] then return some (" NO " ++ word)
    else return none
  let least ← bound "MINVALUE"
  let greatest ← bound "MAXVALUE"
  let start ← after? "START" do
    return (if ← keyword? "WITH" then " START WITH " else " START ") ++ (← signedNumber)
  let cache ← after? "CACHE" do return clauseText "CACHE" (← signedNumber)
  let cycle ← if ← keywords? ["NO", "CYCLE"] then pure (some " NO CYCLE")
    else if ← keyword? "CYCLE" then pure (some " CYCLE")
    else pure none
  return String.join ([increment, least, greatest, start, cache, cycle].filterMap id)

namespace Grammar

/-- A setting with its value. -/
def settingText (g : Grammar) : Parser String := do
  let name ← identifier
  symbol "="
  return name.text ++ " = " ++ (← g.expressionText)

/-- Settings in brackets. -/
def settingList (g : Grammar) : Parser String :=
  inBrackets do return commaText (← g.commas g.settingText)

/-- Settings in brackets behind the words, if the words stand there. -/
def settings (g : Grammar) (words : List String) : Parser Unit := do
  let _ ← afterWords? words g.settingList

/-- A value that is computed from other columns, after AS, and whether it is kept. -/
def computedText (g : Grammar) : Parser String := do
  let value ← inBrackets g.expressionText
  let kept ← oneOf? ["STORED", "VIRTUAL"]
  return "AS (" ++ value ++ ")" ++ optionText (" " ++ ·) kept

/-- The settings of the sequence that numbers the rows, if there are any. -/
def identityText : Parser String := do
  if ← nextIsSymbol "(" then
    let traits ← inBrackets sequenceTraits
    return if traits.isEmpty then "" else " (" ++ traits ++ " )"
  else return ""

/--
How the values of a column are generated. The words are taken even if what they need is not there.
-/
def generatedText? (g : Grammar) : Parser (Option String) := do
  if ← keywords? ["ALWAYS", "AS", "IDENTITY"] then
    return some ("GENERATED ALWAYS AS IDENTITY" ++ (← identityText))
  else if ← keywords? ["BY", "DEFAULT", "AS", "IDENTITY"] then
    return some ("GENERATED BY DEFAULT AS IDENTITY" ++ (← identityText))
  else if ← keywords? ["ALWAYS", "AS"] then
    if ← nextIsSymbol "(" then return some ("GENERATED ALWAYS " ++ (← g.computedText))
    else return none
  else return none

/-- A table that the values refer to, with the columns of it that they name. -/
def referenceText (g : Grammar) : Parser String := do
  let table ← g.objectNameText
  let columns ← g.columnList?
  let actions ← referenceActions
  return table ++ optionText (fun columns => " (" ++ columns ++ ")") columns ++ actions ++
    (← constraintTraits)

/-- What a column may be said to be, besides its type. -/
def columnTrait? (g : Grammar) : Parser (Option String) := do
  if ← keywords? ["CHARACTER", "SET"] then return some ("CHARACTER SET " ++ (← g.objectNameText))
  else if ← keywords? ["NOT", "NULL"] then return some "NOT NULL"
  else if ← keyword? "COMMENT" then return some ("COMMENT " ++ stringText (← quotedString))
  else if ← keyword? "NULL" then return some "NULL"
  else if ← keyword? "DEFAULT" then return some ("DEFAULT " ++ (← g.expressionText))
  else if ← keyword? "MATERIALIZED" then return some ("MATERIALIZED " ++ (← g.expressionText))
  else if ← keyword? "ALIAS" then return some ("ALIAS " ++ (← g.expressionText))
  else if ← keyword? "EPHEMERAL" then
    if (← nextIsSymbol ",") || (← nextIsSymbol ")") then return some "EPHEMERAL"
    else return some ("EPHEMERAL " ++ (← g.expressionText))
  else if ← keywords? ["PRIMARY", "KEY"] then return some ("PRIMARY KEY" ++ (← constraintTraits))
  else if ← keyword? "UNIQUE" then return some ("UNIQUE" ++ (← constraintTraits))
  else if ← keyword? "REFERENCES" then return some ("REFERENCES " ++ (← g.referenceText))
  else if ← keyword? "CHECK" then return some ("CHECK (" ++ (← inBrackets g.expressionText) ++ ")")
  else if ← keyword? "AUTO_INCREMENT" then return some "AUTO_INCREMENT"
  else if ← keyword? "AUTOINCREMENT" then return some "AUTOINCREMENT"
  else if ← keywords? ["ON", "UPDATE"] then return some ("ON UPDATE " ++ (← g.expressionText))
  else if ← keyword? "GENERATED" then g.generatedText?
  else if ← keyword? "OPTIONS" then return some ("OPTIONS(" ++ (← g.settingList) ++ ")")
  else if ← keyword? "AS" then return some (← g.computedText)
  else return none

/-- A trait that may have a name. -/
def namedTrait? (g : Grammar) : Parser (Option String) := do
  if ← keyword? "CONSTRAINT" then
    let name ← identifier
    match ← g.columnTrait? with
    | some trait => return some ("CONSTRAINT " ++ name.text ++ " " ++ trait)
    | none => failure
  else g.columnTrait?

/-- A column, whose collation may stand before its traits or among them. -/
def columnText (g : Grammar) (type : Parser String) : Parser String := do
  let name ← identifier
  let type ← type
  let collation ← after? "COLLATE" g.objectNameText
  let traits ← repeated g.steps do
    match ← g.namedTrait? with
    | some trait => return some (Sum.inl trait)
    | none => Option.map Sum.inr <$> after? "COLLATE" g.objectNameText
  let later := (traits.filterMap Sum.getRight?).getLast?
  return name.text ++ " " ++ type ++ optionText (clauseText "COLLATE") (later.or collation) ++
    String.join ((traits.filterMap Sum.getLeft?).map (" " ++ ·))

end Grammar

end SearchSql.Sql
