/-!
# Query trees

A query selects columns of one index, filters, groups, orders and limits its rows, or deletes the
rows that a predicate names. Numbers stay text, as they were written.

A field inside an object may stand in a select list as three items, `base`, a dot and `sub`.
`SelectUnit.ofItems` reads such a list as the units that a person would see in it, and everything
that walks a select list walks its units.
-/

namespace SearchSql

inductive Node
  /-- AND or OR. -/
  | conditional (op : String) (left right : Node)
  | operator (op : String) (left right : Node)
  | call (name : String) (arguments : List Node)
  /-- A reference to a field by its dotted path. -/
  | field (path : String)
  | string (text : String)
  | number (text : String)
  | bool (value : Bool)
  | null
  | negation (node : Node)
  | isNull (node : Node) (negated : Bool)
  | inList (node : Node) (items : List Node) (negated : Bool)
  /-- Text that is passed on as it is. -/
  | raw (text : String)
deriving Inhabited

inductive Selection
  | field (path : String)
  | call (name : String) (arguments : List Node)
  | wildcard
  | dot

structure SelectItem where
  selection : Selection
  /-- The name that the item is selected under, if it has one. -/
  label : Option String := none

structure OrderTerm where
  node : Node
  ascending : Bool

structure Query where
  select : List SelectItem := []
  index : String
  predicate : Option Node := none
  group : List Node := []
  order : List OrderTerm := []
  limit : Option Nat := none
  delete : Bool := false

namespace Node

def conjunction (left right : Node) : Node := .conditional "AND" left right

def disjunction (left right : Node) : Node := .conditional "OR" left right

/-- Whether the node calls the function, in any mixture of ASCII upper and lower case. -/
def callsFunction (wanted : String) : Node → Bool
  | .call name _ => name.map Char.toLower == wanted.map Char.toLower
  | _ => false

end Node

namespace Selection

/-- The text that stands for the selection itself, without its arguments. -/
def name : Selection → String
  | .field path => path
  | .call name _ => name
  | .wildcard => "*"
  | .dot => "."

/-- The node that a grouping by the selection's label stands for. -/
def toNode : Selection → Node
  | .field path => .field path
  | .call name arguments => .call name arguments
  | .wildcard => .raw "*"
  | .dot => .field "."

end Selection

/-- A part of a select list that yields one column, or a dot that belongs to no field. -/
inductive SelectUnit
  | path (base : SelectItem) (basePath : String) (sub : SelectItem)
  | single (item : SelectItem)

/--
Groups a list into units: a field, a dot and any third item make one path, and every other item
stands for itself.
-/
def SelectUnit.ofItems : List SelectItem → List SelectUnit
  | [] => []
  | ⟨.field basePath, label⟩ :: ⟨.dot, _⟩ :: sub :: rest =>
    .path ⟨.field basePath, label⟩ basePath sub :: ofItems rest
  | item :: rest => .single item :: ofItems rest

end SearchSql
