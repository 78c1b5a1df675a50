import SearchSql.Json.Basic
import SearchSql.Query.Names
import SearchSql.Text.Split

/-!
# Columns of a row

A column is a member of the row, or what a dotted path leads to, from the row through the objects
inside it. A row may also have a member whose name is the whole path, and that member comes first.

The columns of a row take the labels of the select list, one selected item after the other. A column
keeps its place; a column that has to be taken out of the objects of the row goes to the end.
-/

namespace SearchSql

namespace Path

def segments (path : String) : List String := Text.split '.' path

def isDotted (path : String) : Bool := path.toList.contains '.'

/-- The value that a list of names leads to. -/
def find? : List String → Json → Option Json
  | [], value => some value
  | name :: rest, value => (value.member? name).bind (find? rest)

/-- The value of a column: the member of that name, else what the path leads to. -/
def columnValue? (row : Record) (column : String) : Option Json :=
  (Table.get? row column).or (find? (segments column) (.object row))

/--
Takes the value that a list of names leads to out of an object, along with the objects on the way
that are empty once it is gone.
-/
def take : List String → Record → Option (Json × Record)
  | [], _ => none
  | [name], record => (Table.get? record name).map fun value => (value, Table.erase name record)
  | name :: rest, record =>
    ((Table.get? record name).bind Json.asRecord?).bind fun child =>
      (take rest child).map fun (value, child) =>
        (value,
          if child.isEmpty then Table.erase name record
          else Table.put name (.object child) record)

end Path

namespace Row

/-- Gives a member another name. Where that name is there already, the later value wins. -/
def renameMember (column label : String) (row : Record) : Record :=
  Table.ofEntries <| row.map fun member => if member.1 == column then (label, member.2) else member

/-- Makes a column go by its label. -/
def rename (row : Record) (change : String × String) : Record :=
  let (column, label) := change
  if column = label then row
  else if Table.has row column then renameMember column label row
  else if Path.isDotted column then
    match Path.take (Path.segments column) row with
    | some (value, rest) => Table.put label value rest
    | none => row
  else row

def withLabels (select : List SelectItem) (row : Record) : Record :=
  (renamings select).foldl rename row

end Row

end SearchSql
