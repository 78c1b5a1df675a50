import SearchSql.Error
import SearchSql.Sql.Grammar.Statement

/-!
# Queries from SQL text

`Query.ofSql` makes a query tree of a text that holds one SELECT or one DELETE on one table. A field
inside an object that is selected becomes three items, the label standing on the last.
-/

namespace SearchSql

open Sql

/-- The name of the only table, its parts joined by dots. -/
def indexOf (tables : List JoinedRelation) : Except QueryError String :=
  match tables with
  | [table] =>
    if !table.joins.isEmpty then .error (.unsupported .joins)
    else
      match table.relation.table with
      | some names => .ok (Identifier.path names)
      | none => .error (.unsupported .tableExpression)
  | _ => .error (.unsupported .tableCount)

/-- The limit, which has to be a whole number of 64 bits. -/
def limitOf : Option Expr → Except QueryError (Option Nat)
  | none => .ok none
  | some (.number text _) =>
    match Decimal.word64? text with
    | some limit => .ok (some limit)
    | none => .error (.invalidLimit text)
  | some _ => .error (.unsupported .limitExpression)

/-- The items that a selected expression stands for. -/
def itemsOf (expr : Expr) (label : Option String) : Except QueryError (List SelectItem) :=
  match expr with
  | .identifier name => .ok [⟨.field name.value, label⟩]
  | .compound names =>
    match names.reverse with
    | sub :: base :: more => .ok [
        ⟨.field (Identifier.path (base :: more).reverse), none⟩, ⟨.dot, none⟩,
        ⟨.field sub.value, label⟩]
    | _ => .ok [⟨.field expr.text, label⟩]
  | .call name _ arguments _ =>
    .ok [⟨.call (Identifier.pathText name) (arguments.map Expr.toNode), label⟩]
  | .subqueryCall _ => .error (.unsupported .functionSubquery)
  | expr => .ok [⟨.field expr.text, label⟩]

def itemsOfTerm : SelectTerm → Except QueryError (List SelectItem)
  | .wildcard _ => .ok [⟨.wildcard, none⟩]
  | .qualifiedWildcard .. => .error (.unsupported .qualifiedWildcard)
  | .value expr label => itemsOf expr (label.map Identifier.value)

def Query.ofSelect (query : SelectQuery) : Except QueryError Query := do
  match query.body with
  | none => throw (.unsupported .setExpression)
  | some body =>
    let index ← indexOf body.tables
    let select ← body.terms.mapM itemsOfTerm
    if body.hasHaving then throw (.unsupported .having)
    let limit ← limitOf query.limit
    return {
      select := select.flatten
      index
      predicate := body.predicate.map Expr.toNode
      group := body.group.map Expr.toNode
      order := query.order.map fun key => ⟨key.expr.toNode, key.ascending⟩
      limit }

def Query.ofDeletion (deletion : Deletion) : Except QueryError Query := do
  let index ← indexOf deletion.tables
  let limit ← limitOf deletion.limit
  return { index, predicate := deletion.predicate.map Expr.toNode, limit, delete := true }

/-- The query of a text that holds one statement, a SELECT or a DELETE. -/
def Query.ofSql (text : String) : Except QueryError Query :=
  match statements? text with
  | none => .error .grammar
  | some [.select query] => Query.ofSelect query
  | some [.delete deletion] => Query.ofDeletion deletion
  | some [_] => .error (.unsupported .otherStatement)
  | some _ => .error (.unsupported .multipleStatements)

end SearchSql
