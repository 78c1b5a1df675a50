import SearchSql.Query.Names
import SearchSql.Text.CharacterClass

/-!
# Queries as SQL text

The text that the search engine is asked to explain. A selected field loses its label, which the
engine would take for the name of a field; a call keeps it, because it names the column. Operands
that are operators and all AND and OR nodes are put in brackets, since a query tree keeps no
brackets of its own.
-/

namespace SearchSql

inductive EmitError
  | missingIndex
  | danglingDot (path : String)
  | unexpectedDot
deriving DecidableEq

def EmitError.message : EmitError → String
  | .missingIndex => "missing FROM index"
  | .danglingDot path => "dangling '.' after " ++ path
  | .unexpectedDot => "unexpected '.' in select list"

/-- A quote inside a string is written twice. -/
def quoteDoubled : List Char → List Char
  | [] => []
  | c :: rest => if c = '\'' then '\'' :: '\'' :: quoteDoubled rest else c :: quoteDoubled rest

def sqlString (text : String) : String :=
  "'" ++ String.ofList (quoteDoubled text.toList) ++ "'"

def Node.isOperator : Node → Bool
  | .operator .. => true
  | _ => false

def bracketedIf (bracketed : Bool) (text : String) : String :=
  if bracketed then "(" ++ text ++ ")" else text

mutual

def Node.toSql : Node → String
  | .conditional op left right =>
    "(" ++ left.toSql ++ " " ++ op.map Char.toUpper ++ " " ++ right.toSql ++ ")"
  | .operator op left right =>
    bracketedIf left.isOperator left.toSql ++ " " ++ op ++ " " ++
      bracketedIf right.isOperator right.toSql
  | .call name arguments => name ++ "(" ++ ", ".intercalate (Node.allToSql arguments) ++ ")"
  | .field path => path
  | .string text => sqlString text
  | .number text => text
  | .bool true => "true"
  | .bool false => "false"
  | .null => "NULL"
  | .negation node => "NOT " ++ node.toSql
  | .isNull node negated => node.toSql ++ " IS " ++ negationWord negated ++ "NULL"
  | .inList node items negated =>
    node.toSql ++ " " ++ negationWord negated ++ "IN (" ++
      ", ".intercalate (Node.allToSql items) ++ ")"
  | .raw text => text

def Node.allToSql : List Node → List String
  | [] => []
  | node :: rest => node.toSql :: Node.allToSql rest

end

def callSql (name : String) (arguments : List Node) : String :=
  name ++ "(" ++ ", ".intercalate (arguments.map Node.toSql) ++ ")"

def labelledSql (text : String) : Option String → String
  | some label => text ++ " AS " ++ label
  | none => text

/-- The terms of a select list. A dot without a field before it or anything after it fails. -/
def projectionTerms : List SelectUnit → Except EmitError (List String)
  | [] => .ok []
  | .path _ basePath sub :: rest =>
    (projectionTerms rest).map (SelectUnit.dotted basePath sub.selection.name :: ·)
  | .single ⟨.dot, _⟩ :: _ => .error .unexpectedDot
  | .single ⟨.field fieldPath, _⟩ :: .single ⟨.dot, _⟩ :: _ => .error (.danglingDot fieldPath)
  | .single ⟨.field fieldPath, _⟩ :: rest => (projectionTerms rest).map (fieldPath :: ·)
  | .single ⟨.wildcard, _⟩ :: rest => (projectionTerms rest).map ("*" :: ·)
  | .single ⟨.call name arguments, label⟩ :: rest =>
    (projectionTerms rest).map (labelledSql (callSql name arguments) label :: ·)

def projectionSql (select : List SelectItem) : Except EmitError String :=
  if select.isEmpty then .ok "*"
  else (projectionTerms (SelectUnit.ofItems select)).map (", ".intercalate ·)

def OrderTerm.toSql (term : OrderTerm) : String :=
  term.node.toSql ++ (if term.ascending then " ASC" else " DESC")

/-- A clause with its terms separated by commas, left out when it has none. -/
def clauseSql (keyword : String) (terms : List String) : String :=
  if terms.isEmpty then "" else " " ++ keyword ++ " " ++ ", ".intercalate terms

/-- The clauses that follow the index. -/
def Query.clausesSql (query : Query) : String :=
  clauseSql "WHERE" (query.predicate.toList.map Node.toSql) ++
    clauseSql "GROUP BY" (query.group.map Node.toSql) ++
    clauseSql "ORDER BY" (query.order.map OrderTerm.toSql) ++
    clauseSql "LIMIT" (query.limit.toList.map fun limit => Nat.repr limit)

/-- The query as SQL text. An index name of blanks alone is no index. -/
def Query.toSql (query : Query) : Except EmitError String :=
  if Text.isAllBlank query.index then .error .missingIndex
  else if query.delete then .ok ("DELETE FROM " ++ query.index ++ query.clausesSql)
  else (projectionSql query.select).map fun projection =>
    "SELECT " ++ projection ++ " FROM " ++ query.index ++ query.clausesSql

end SearchSql
