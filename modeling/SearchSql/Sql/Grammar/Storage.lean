import SearchSql.Sql.Grammar.Column

/-!
# Storage

How the rows of a table are kept in files: the marks between fields and lines, the format of the
files and their place. Only the format of a file is part of a normal text.
-/

namespace SearchSql.Sql

open SearchSql.Sql.Parser

/-- The format of a file. Lines of JSON are named as plain text. -/
def fileFormat : Parser String := do
  match ← oneOf ["TEXTFILE", "SEQUENCEFILE", "ORC", "PARQUET", "AVRO", "RCFILE", "JSONFILE"] with
  | "JSONFILE" => return "TEXTFILE"
  | word => return word

/-- A mark, after the words that introduce it. Where one of its words is missing the list ends. -/
def rowMark? : Parser (Option Unit) := do
  let mark (words : List String) : Parser (Option Unit) :=
    afterWords? words do
      let _ ← identifier
  match ← oneOf? ["FIELDS", "COLLECTION", "MAP", "LINES", "NULL"] with
  | some "FIELDS" =>
    match ← mark ["TERMINATED", "BY"] with
    | some _ =>
      let _ ← mark ["ESCAPED", "BY"]
      return some ()
    | none => return none
  | some "COLLECTION" => mark ["ITEMS", "TERMINATED", "BY"]
  | some "MAP" => mark ["KEYS", "TERMINATED", "BY"]
  | some "LINES" => mark ["TERMINATED", "BY"]
  | some _ => mark ["DEFINED", "AS"]
  | none => return none

namespace Grammar

def rowFormat (g : Grammar) : Parser Unit := do
  keyword "FORMAT"
  if ← keyword? "SERDE" then
    let _ ← literalString
  else
    let _ ← keyword? "DELIMITED"
    let _ ← repeated g.steps rowMark?

/-- How and where the rows are kept; the properties of a row format need their own word. -/
def storage (g : Grammar) : Parser Unit := do
  let _ ← repeated g.steps do
    if ← keyword? "ROW" then some <$> g.rowFormat
    else if ← keyword? "STORED" then
      keyword "AS"
      if ← keyword? "INPUTFORMAT" then
        let _ ← g.expression
        keyword "OUTPUTFORMAT"
        let _ ← g.expression
      else
        let _ ← fileFormat
      return some ()
    else if ← keyword? "LOCATION" then
      let _ ← literalString
      return some ()
    else
      return (← afterWords? ["WITH", "SERDEPROPERTIES"] g.settingList).map fun _ => ()

end Grammar

end SearchSql.Sql
