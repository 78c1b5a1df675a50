import SearchSql.Sql.Expr

/-!
# Statements

What a statement says that a query tree can be made of. The parts that no query tree holds are kept
only as normal text, which stands for a query that is nested in an expression.
-/

namespace SearchSql.Sql

/-- Something that rows are taken from: its text stands around the label that it may have. -/
structure Relation where
  /-- The name of the table, if the relation is a table. -/
  table : Option (List Identifier) := none
  /-- Whether it is a join in brackets. -/
  isJoin : Bool := false
  before : String
  label : Option String := none
  after : String := ""

/-- A relation with the texts of what is joined to it. -/
structure JoinedRelation where
  relation : Relation
  joins : List String

inductive SelectTerm
  | wildcard (options : String)
  | qualifiedWildcard (names : List Identifier) (options : String)
  | value (expr : Expr) (label : Option Identifier)

structure SelectBody where
  terms : List SelectTerm
  tables : List JoinedRelation
  predicate : Option Expr
  group : List Expr
  hasHaving : Bool
  text : String

structure OrderKey where
  expr : Expr
  ascending : Bool
  text : String

/-- A query; it has no body where it is not one SELECT without brackets. -/
structure SelectQuery where
  body : Option SelectBody
  order : List OrderKey := []
  limit : Option Expr := none
  text : String

structure Deletion where
  tables : List JoinedRelation
  predicate : Option Expr
  limit : Option Expr

inductive Statement
  | select (query : SelectQuery)
  | delete (deletion : Deletion)
  | explanation
  | other

/-- A text with its keyword in front, and a space before that. -/
def clauseText (keyword text : String) : String := " " ++ keyword ++ " " ++ text

def optionText (render : String → String) (text : Option String) : String :=
  (text.map render).getD ""

def Relation.text (relation : Relation) : String :=
  relation.before ++ optionText (clauseText "AS") relation.label ++ relation.after

def JoinedRelation.text (table : JoinedRelation) : String :=
  table.relation.text ++ String.join table.joins

def SelectTerm.text : SelectTerm → String
  | wildcard options => "*" ++ options
  | qualifiedWildcard names options => Identifier.pathText names ++ ".*" ++ options
  | value expr label => expr.text ++ optionText (clauseText "AS") (label.map Identifier.text)

end SearchSql.Sql
