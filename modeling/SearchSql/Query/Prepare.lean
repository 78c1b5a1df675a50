import SearchSql.Geometry.GeoJson
import SearchSql.Json.Reader
import SearchSql.Mapping.Basic
import SearchSql.Query.Names
import SearchSql.Text.CharacterClass

/-!
# Preparing a query for the search engine

What a person writes is not quite what the engine can group and search by. `Query.prepare` changes
a query in four ways and leaves the rest as it is:

* a grouping by a label becomes a grouping by what the label stands for, and a grouping by
  `geohash` becomes one by the engine's own grid;
* a field of analysed text that is grouped or ordered by, or that a selected function takes, becomes
  its `.keyword` field, the one that holds the text as a whole;
* a grouping without a limit gets one that no result reaches, for the engine would stop earlier;
* the first `ST_INTERSECTS` of the predicate becomes the engine's own, with its geometry in
  Well-Known Text.
-/

namespace SearchSql

/-- The limit of a grouping that has none. -/
def groupLimit : Nat := 9999999

/-- The field of points, which grids are made of. -/
def pointField : String := "the_geom_point"

/-- The field of shapes, which predicates on geometries look at. -/
def geometryField : String := "the_geom"

def keywordEnding : String := ".keyword"

/-- Whether a path already ends in `.keyword`. -/
def isKeywordField (path : String) : Bool :=
  keywordEnding.toList.isSuffixOf path.toList

/-- A field of analysed text by its keyword field; every other node as it is. -/
def Node.asKeyword (mapping : Mapping) : Node → Node
  | .field path =>
    if !isKeywordField path && mapping.isText path then .field (path ++ keywordEnding)
    else .field path
  | node => node

/--
What a label stands for: the first item that carries it, together with the field and the dot before
it if there are such.
-/
def resolveLabel (select : List SelectItem) (label : String) : Option Node :=
  (select.findIdx? (·.label == some label)).bind fun index =>
    select[index]?.map fun item =>
      let before (distance : Nat) : Option Selection :=
        if distance ≤ index then select[index - distance]?.map (·.selection) else none
      match before 2, before 1 with
      | some (.field basePath), some .dot => .field (SelectUnit.dotted basePath item.selection.name)
      | _, _ => item.selection.toNode

/-- `geohash(field, precision)` as a grid over the points. -/
def gridOf? : Node → Option Node
  | .call name [_, precision] =>
    if Node.callsFunction "geohash" (.call name []) then
      some (.call "geohash_grid"
        [.operator "=" (.field "field") (.field pointField),
          .operator "=" (.field "precision") precision])
    else none
  | _ => none

def groupTerm (mapping : Mapping) (select : List SelectItem) (node : Node) : Node :=
  let resolved :=
    match node with
    | .field path => (resolveLabel select path).getD node
    | _ => node
  (gridOf? resolved).getD (resolved.asKeyword mapping)

def SelectItem.withKeywords (mapping : Mapping) (item : SelectItem) : SelectItem :=
  match item.selection with
  | .call name arguments =>
    { item with selection := .call name (arguments.map (·.asKeyword mapping)) }
  | _ => item

def OrderTerm.withKeywords (mapping : Mapping) (term : OrderTerm) : OrderTerm :=
  { term with node := term.node.asKeyword mapping }

/-- The last string among the arguments. -/
def lastString? (arguments : List Node) : Option String :=
  arguments.foldl
    (fun found argument => match argument with | .string text => some text | _ => found) none

def isQuote (c : Char) : Bool := c == '\'' || c == '"'

/-- The geometry that the arguments of a predicate hold, if it is one that can be written. -/
def wktArgument? (arguments : List Node) : Option String := do
  let text ← lastString? arguments
  let document ← Json.read (Text.trimMatches isQuote (Text.trim text))
  let geometry ← (Geometry.ofGeoJson document).toOption
  some geometry.toWkt

def engineIntersects (wkt : String) : Node :=
  .call "GEO_INTERSECTS" [.field geometryField, .string wkt]

/--
Changes the first `ST_INTERSECTS` that conditionals lead to, from left to right; `none` when they
lead to none. One whose geometry cannot be written stays as it is.
-/
def Node.intersects? : Node → Option Node
  | .call name arguments =>
    if Node.callsFunction "ST_INTERSECTS" (.call name arguments) then
      some ((wktArgument? arguments).elim (.call name arguments) engineIntersects)
    else none
  | .conditional op left right =>
    match left.intersects? with
    | some left => some (.conditional op left right)
    | none => right.intersects?.map (.conditional op left ·)
  | _ => none

def Node.withEngineIntersects (node : Node) : Node := node.intersects?.getD node

namespace Query

/-- A mapping is looked up only for a query that groups or orders. -/
def needsMapping (query : Query) : Bool := !query.group.isEmpty || !query.order.isEmpty

def withKeywords (query : Query) (mapping : Mapping) : Query :=
  { query with
    group := query.group.map (groupTerm mapping query.select)
    order := query.order.map (·.withKeywords mapping)
    select := query.select.map (·.withKeywords mapping) }

def withGroupLimit (query : Query) : Query :=
  if !query.group.isEmpty && query.limit.isNone then { query with limit := some groupLimit }
  else query

/-- The query as the engine can run it, given the mapping of its index if it needs one. -/
def prepare (query : Query) (mapping : Mapping) : Query :=
  let query := if query.needsMapping then query.withKeywords mapping else query
  let query := query.withGroupLimit
  { query with predicate := query.predicate.map Node.withEngineIntersects }

end Query

end SearchSql
