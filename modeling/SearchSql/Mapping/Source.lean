import SearchSql.Error
import SearchSql.Mapping.Basic
import SearchSql.Query.Prepare

/-!
# Sources of mappings

The search engine tells a mapping in its answer to a request: the answer names indices, each with
either the properties of its fields or, in the older layout, with types that have properties. When
a name stands for several indices, their fields are put together.

A source tells the mapping of an index when it is asked, and need not be the same afterwards, since
it may count what it was asked or keep what it found. A query asks once if it groups or orders, and
not at all otherwise.
-/

namespace SearchSql

namespace Mapping

/-- The path of a property inside an object; the outermost object has no path. -/
def joinPath (path name : String) : String :=
  if path.isEmpty then name else path ++ "." ++ name

def propertiesOf? (definition : Json) : Option Record :=
  (definition.member? "properties").bind Json.asRecord?

theorem sizeOf_propertiesOf?_lt {definition : Json} {properties : Record}
    (found : propertiesOf? definition = some properties) :
    sizeOf properties < sizeOf definition := by
  rcases Option.bind_eq_some_iff.1 found with ⟨value, isMember, isRecord⟩
  have smaller := Json.sizeOf_member?_lt isMember
  cases value with
  | object members =>
    cases isRecord
    simp only [Json.object.sizeOf_spec] at smaller
    omega
  | _ => simp [Json.asRecord?] at isRecord

/--
The fields of an object and of the objects inside it, each object before what it holds. Without a
name of a type, a definition is an object if it has properties and nothing otherwise.
-/
def propertyEntries (path : String) : Record → List (String × FieldType)
  | [] => []
  | (name, definition) :: rest =>
    let here := joinPath path name
    let type? := (definition.member? "type").bind Json.asText?
    let entries :=
      match found : propertiesOf? definition with
      | some properties =>
        have := sizeOf_propertiesOf?_lt found
        (here, (type?.map FieldType.ofName).getD .object) :: propertyEntries here properties
      | none => (type?.map fun type => (here, FieldType.ofName type)).toList
    entries ++ propertyEntries path rest
termination_by properties => sizeOf properties
decreasing_by
  · simp only [List.cons.sizeOf_spec, Prod.mk.sizeOf_spec]
    omega
  · simp only [List.cons.sizeOf_spec]
    omega

/-- The trees of properties that one index has. -/
def propertyTrees (index : Json) : List Record :=
  match (index.member? "mappings").bind Json.asRecord? with
  | none => []
  | some mappings =>
    match (Table.get? mappings "properties").bind Json.asRecord? with
    | some properties => [properties]
    | none => mappings.filterMap fun typed => propertiesOf? typed.2

def ofResponse (body : Json) : Mapping :=
  let indices := (body.asRecord?.getD []).map (·.2)
  Table.ofEntries ((indices.flatMap propertyTrees).flatMap (propertyEntries ""))

end Mapping

/-- The answer to a lookup of the mapping of an index, and what the source is like after it. -/
abbrev Mapping.Source (σ : Type) := String → σ → Except BackendError Mapping × σ

/-- The query as the engine can run it, with the mapping from the source if it needs one. -/
def Query.prepareFrom {σ : Type} (query : Query) (source : Mapping.Source σ) (index : String)
    (state : σ) : Except QueryError Query × σ :=
  if query.needsMapping then
    match source index state with
    | (.error cause, after) => (.error (.mappingLookup cause), after)
    | (.ok mapping, after) => (.ok (query.prepare mapping), after)
  else (.ok (query.prepare []), state)

end SearchSql
