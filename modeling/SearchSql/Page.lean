import SearchSql.Row.Bucket
import SearchSql.Row.Column

/-!
# Pages of a result

What the search engine answers to a search, or to the request for the next page of one: either the
aggregations of the whole result, or some hits. Both may carry the identifier under which the next
page is asked for.

A hit contributes the object that is its source; a hit without one that is itself an object is a
row as it stands, and anything else contributes nothing.
-/

namespace SearchSql

namespace Hit

def row? (hit : Json) : Option Record :=
  match (hit.member? "_source").bind Json.asRecord? with
  | some source => some source
  | none => hit.asRecord?

def rows (hits : List Json) : List Record := hits.filterMap row?

end Hit

inductive Page
  | aggregations (tree : Record) (scrollId : Option String)
  | hits (found : List Json) (scrollId : Option String) (total : Option Nat)

namespace Page

/-- A page without hits that leads nowhere. -/
def last : Page := .hits [] none none

/-- The number of hits in all: a number, or the value of an object. -/
def readTotal? (hits : Record) : Option Nat :=
  (Table.get? hits "total").bind fun total =>
    total.asNatural?.or ((total.member? "value").bind Json.asNatural?)

/-- A page with aggregations if there are any, else a page of hits, however little there is. -/
def ofResponse (body : Json) : Page :=
  let scrollId := (body.member? "_scroll_id").bind Json.asText?
  let aggregations := ((body.member? "aggregations").bind Json.asRecord?).getD []
  if !aggregations.isEmpty then .aggregations aggregations scrollId
  else
    let hits := ((body.member? "hits").bind Json.asRecord?).getD []
    .hits (((Table.get? hits "hits").bind Json.asArray?).getD []) scrollId (readTotal? hits)

def scrollId : Page → Option String
  | .aggregations _ scrollId => scrollId
  | .hits _ scrollId _ => scrollId

def hitCount : Page → Nat
  | .aggregations .. => 0
  | .hits found _ _ => found.length

/-- The rows of a page, with the labels of the select list. -/
def rows (page : Page) (select : List SelectItem) : List Record :=
  let rows :=
    match page with
    | .aggregations tree _ => Bucket.rowsOf tree
    | .hits found _ _ => Hit.rows found
  rows.map (Row.withLabels select)

end Page

end SearchSql
