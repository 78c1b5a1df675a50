import SearchSql.Json.Printer
import SearchSql.Row.Column

/-!
# CSV records

A record is a line of fields separated by commas. A field is quoted where a reader would otherwise
take it for something else, and a quote inside it is written twice. A record that would be an empty
line is written as one empty quoted field.
-/

namespace SearchSql.Csv

def needsQuotes (c : Char) : Bool := c == ',' || c == '"' || c == '\r' || c == '\n'

def doubleQuotes : List Char → List Char
  | [] => []
  | c :: rest => if c = '"' then '"' :: '"' :: doubleQuotes rest else c :: doubleQuotes rest

def field (text : List Char) : List Char :=
  if text.any needsQuotes then '"' :: doubleQuotes text ++ ['"'] else text

def fields : List (List Char) → List Char
  | [] => []
  | [text] => field text
  | text :: rest => field text ++ ',' :: fields rest

def record (texts : List (List Char)) : List Char :=
  let line := fields texts
  (if line.isEmpty then ['"', '"'] else line) ++ ['\n']

/-- The text of a value in a cell: nothing for null, a string as it is, else its JSON text. -/
def cell : Option Json → String
  | none => ""
  | some .null => ""
  | some (.string text) => text
  | some value => value.compact

/-- The cells of a row under some columns. -/
def cells (columns : List String) (row : Record) : List String :=
  columns.map fun column => cell (Path.columnValue? row column)

def recordText (texts : List String) : String := String.ofList (record (texts.map String.toList))

/-- The names of the columns of some rows, in the order of their first occurrence. -/
def columnsOf (rows : List Record) : List String :=
  rows.foldl
    (fun columns row =>
      (Table.names row).foldl
        (fun columns name => if columns.contains name then columns else columns ++ [name]) columns)
    []

end SearchSql.Csv
