import SearchSql.Query.Basic

/-!
# Names of columns

A select item without a label is named by its own text: the field, or the call with its arguments
written out. `Query.labels` and `Query.outputColumns` say which columns the rows of a result have
once every selected item goes by its label.
-/

namespace SearchSql

def negationWord (negated : Bool) : String := if negated then "NOT " else ""

mutual

/-- The text of a node in the name of a column. No brackets are put around operands. -/
def Node.render : Node → String
  | .conditional op left right => left.render ++ " " ++ op ++ " " ++ right.render
  | .operator op left right => left.render ++ " " ++ op ++ " " ++ right.render
  | .call name arguments => name ++ "(" ++ ", ".intercalate (Node.renderAll arguments) ++ ")"
  | .field path => path
  | .string text => "'" ++ text ++ "'"
  | .number text => text
  | .bool true => "true"
  | .bool false => "false"
  | .null => "NULL"
  | .negation node => "NOT " ++ node.render
  | .isNull node negated => node.render ++ " IS " ++ negationWord negated ++ "NULL"
  | .inList node items negated =>
    node.render ++ " " ++ negationWord negated ++ "IN (" ++
      ", ".intercalate (Node.renderAll items) ++ ")"
  | .raw text => text

def Node.renderAll : List Node → List String
  | [] => []
  | node :: rest => node.render :: Node.renderAll rest

end

/-- The column that the search engine makes of a selection that has no label. -/
def Selection.naturalName : Selection → String
  | .call name arguments => name ++ "(" ++ ", ".intercalate (arguments.map Node.render) ++ ")"
  | selection => selection.name

namespace SelectUnit

/-- The dotted path of a base and what is selected below it. -/
def dotted (base sub : String) : String := base ++ "." ++ sub

/-- The column of a unit before it is renamed, when the unit has a column of its own. -/
def column? : SelectUnit → Option String
  | .path _ basePath sub => some (dotted basePath sub.selection.name)
  | .single ⟨.field fieldPath, _⟩ => some fieldPath
  | .single ⟨.call name arguments, _⟩ => some (Selection.call name arguments).naturalName
  | .single ⟨.wildcard, _⟩ => none
  | .single ⟨.dot, _⟩ => none

/-- The label of a unit; on a dotted field, the label of what is below the base comes first. -/
def label : SelectUnit → Option String
  | .path base _ sub => sub.label.or base.label
  | .single item => item.label

/-- The column and the label that it is to have. -/
def renaming? (unit : SelectUnit) : Option (String × String) :=
  unit.column?.bind fun column => unit.label.map fun label => (column, label)

/-- The column under the name that it has in the output. -/
def outputColumn? (unit : SelectUnit) : Option String :=
  unit.column?.map fun column => unit.label.getD column

end SelectUnit

/-- The columns to rename, with their labels, in the order of the select list. -/
def renamings (select : List SelectItem) : List (String × String) :=
  (SelectUnit.ofItems select).filterMap SelectUnit.renaming?

def SelectItem.isWildcard (item : SelectItem) : Bool :=
  match item.selection with
  | .wildcard => true
  | _ => false

/--
The columns of the rows that search hits give, in the order of the select list; `none` when a
wildcard leaves them to the rows.
-/
def outputColumns (select : List SelectItem) : Option (List String) :=
  if select.isEmpty || select.any SelectItem.isWildcard then none
  else some ((SelectUnit.ofItems select).filterMap SelectUnit.outputColumn?)

end SearchSql
