import SearchSql.Query.Basic
import SearchSql.Sql.Literal

/-!
# Expressions

The expressions of SQL that a query tree has nodes for, with their brackets and quotes. Every other
expression is a phrase: its normal text, with keywords in upper case and one space between words.

`Expr.text` is the normal text of an expression, and `Expr.toNode` the node that stands for it. A
node has no brackets of its own: the tree says what they said.
-/

namespace SearchSql.Sql

inductive Expr
  | identifier (name : Identifier)
  | compound (names : List Identifier)
  | number (text : String) (long : Bool)
  | string (text : String)
  | bool (value : Bool)
  | null
  | binary (op : String) (left right : Expr)
  | negation (operand : Expr)
  | isNull (operand : Expr) (negated : Bool)
  | inList (operand : Expr) (items : List Expr) (negated : Bool)
  | bracketed (inner : Expr)
  /-- A call, with what is written before its first argument and after its last one. -/
  | call (name : List Identifier) (before : String) (arguments : List Expr) (after : String)
  /-- An argument that is given by name, with the symbol between the two. -/
  | named (name : Identifier) (symbol : String) (value : Expr)
  | wildcard
  | qualifiedWildcard (names : List Identifier)
  /-- A call whose argument is a query. -/
  | subqueryCall (text : String)
  | phrase (text : String)
deriving Inhabited

/-- Texts with commas between them. -/
def commaText (texts : List String) : String := ", ".intercalate texts

/-- A word that is written when the flag is set, with a space behind it. -/
def wordIf (flag : Bool) (word : String) : String := if flag then word ++ " " else ""

mutual

def Expr.text : Expr → String
  | identifier name => name.text
  | compound names => Identifier.pathText names
  | number text long => if long then text ++ "L" else text
  | string text => stringText text
  | bool true => "true"
  | bool false => "false"
  | null => "NULL"
  | binary op left right => left.text ++ " " ++ op ++ " " ++ right.text
  | negation operand => "NOT " ++ operand.text
  | isNull operand negated => operand.text ++ " IS " ++ wordIf negated "NOT" ++ "NULL"
  | inList operand items negated =>
    operand.text ++ " " ++ wordIf negated "NOT" ++ "IN (" ++ commaText (Expr.texts items) ++ ")"
  | bracketed inner => "(" ++ inner.text ++ ")"
  | call name before arguments after =>
    Identifier.pathText name ++ before ++ commaText (Expr.texts arguments) ++ after
  | named name symbol value => name.text ++ " " ++ symbol ++ " " ++ value.text
  | wildcard => "*"
  | qualifiedWildcard names => Identifier.pathText names ++ ".*"
  | subqueryCall text => text
  | phrase text => text

def Expr.texts : List Expr → List String
  | [] => []
  | first :: rest => first.text :: Expr.texts rest

end

mutual

/-- The node of a query tree. An argument that is given by name is an equation. -/
def Expr.toNode : Expr → Node
  | identifier name => .field name.value
  | compound names => .field (Identifier.path names)
  | number text _ => .number text
  | string text => .string text
  | bool value => .bool value
  | null => .null
  | binary op left right =>
    if op = "AND" ∨ op = "OR" then .conditional op left.toNode right.toNode
    else .operator op left.toNode right.toNode
  | negation operand => .negation operand.toNode
  | isNull operand negated => .isNull operand.toNode negated
  | inList operand items negated => .inList operand.toNode (Expr.toNodes items) negated
  | bracketed inner => inner.toNode
  | call name _ arguments _ => .call (Identifier.pathText name) (Expr.toNodes arguments)
  | named name _ value => .operator "=" (.field name.value) value.toNode
  | wildcard => .raw "*"
  | qualifiedWildcard names => .raw (Identifier.pathText names ++ ".*")
  | subqueryCall text => .raw text
  | phrase text => .raw text

def Expr.toNodes : List Expr → List Node
  | [] => []
  | first :: rest => first.toNode :: Expr.toNodes rest

end

theorem Expr.toNodes_eq_map (items : List Expr) : Expr.toNodes items = items.map Expr.toNode := by
  induction items with
  | nil => rfl
  | cons first rest ih => simp [Expr.toNodes, ih]

end SearchSql.Sql
