import SearchSql.Json.Basic

/-!
# Native queries

The search engine explains a SQL text as a query in its own form. A document that lacks the field
that such a query sorts by would make the whole sort fail, so each sort by a field is told to take
an unmapped field for a number and to put documents without it last. Names that begin with an
underscore are the engine's own and stay as they are.
-/

namespace SearchSql.NativeQuery

def isEngineName (name : String) : Bool :=
  match name.toList with
  | c :: _ => c == '_'
  | [] => false

def withMissingLast (spec : Record) : Record :=
  Table.put "missing" (.string "_last") (Table.put "unmapped_type" (.string "long") spec)

/-- The specification of a sort by a field. A text is the order of the sort. -/
def sortSpec : Json → Json
  | .object spec => .object (withMissingLast spec)
  | .string order => .object (withMissingLast [("order", .string order)])
  | other => other

def sortEntry : Json → Json
  | .string field =>
    if isEngineName field then .string field
    else .object [(field, .object (withMissingLast [("order", .string "asc")]))]
  | .object fields =>
    .object <| fields.map fun (name, spec) =>
      (name, if isEngineName name then spec else sortSpec spec)
  | other => other

/-- Sort entries; a value that is no array is the only entry. -/
def sortEntries : Json → List Json
  | .array entries => entries.map sortEntry
  | entry => [sortEntry entry]

/-- Completes the sort of a native query, if it has one. -/
def withSortDefaults : Json → Json
  | .object members =>
    .object <| members.map fun (name, value) =>
      (name, if name == "sort" then .array (sortEntries value) else value)
  | other => other

end SearchSql.NativeQuery
