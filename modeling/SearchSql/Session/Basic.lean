import SearchSql.NativeQuery
import SearchSql.Output.Encoder
import SearchSql.Session.Engine

/-!
# Opening a session

A session has the engine explain the SQL text of a query, opens a cursor with the native query, and
holds the first page. Time passes only while the engine takes its time to reply.
-/

namespace SearchSql

structure Options where
  format : OutputFormat := .json
  download : Bool := false
  metadata : Option Json := none
  /-- The budget of a query in milliseconds. -/
  timeout : Nat := 60000
  /-- How long the engine is to keep a cursor between two calls. -/
  keepAlive : String := "1m"

/-- How a session ended that did not fail. -/
inductive Outcome
  | completed (returned : Nat)
  /-- The budget ran out, and the result may lack rows. -/
  | overBudget (returned : Nat)
deriving DecidableEq

namespace Outcome

def returned : Outcome → Nat
  | .completed returned => returned
  | .overBudget returned => returned

/-- Takes a session that ran over its budget for a failed one. -/
def toResult : Outcome → Except QueryError Nat
  | .completed returned => .ok returned
  | .overBudget returned => .error (.timeoutExceeded returned)

end Outcome

/-- What does not change while the pages of a session are read. -/
structure Session where
  engine : Engine
  consumer : Consumer
  select : List SelectItem
  limit : Option Nat
  options : Options

/-- How far a session has come. -/
structure Progress where
  encoder : Encoder
  /-- The identifier under which the next page is asked for. -/
  scrollId : Option String
  /-- Whether the engine still holds the cursor. -/
  live : Bool
  returned : Nat := 0
  /-- The milliseconds since the engine was asked to explain the query. -/
  elapsed : Nat
  scrolls : Nat := 0
  writes : Nat := 0

/-- What was done, how far it led, and what came of it. -/
structure Step (α : Type) where
  events : List Event
  progress : Progress
  result : Except QueryError α

def holdsOutOfBounds (reason : String) : Bool := Text.holdsAnyCase "out of bounds" reason

/-- What it means that the engine failed to explain a query. -/
def explainError : BackendError → QueryError
  | .status code reason =>
    if holdsOutOfBounds reason then .semanticallyInvalid reason else .invalidQuery code reason
  | cause => .backend cause

/-- What it means that the engine failed to open a cursor on an index. -/
def searchError (index : String) : BackendError → QueryError
  | .status 404 _ => .indexNotFound index
  | cause => .backend cause

/-- The columns that a CSV document has from the start: those of the select list, for hits. -/
def presetColumns (format : OutputFormat) (page : Page) (select : List SelectItem) :
    List String :=
  match format, page with
  | .csv, .hits .. => (outputColumns select).getD []
  | _, _ => []

namespace Session

/-- A session whose first page has come. -/
structure Opened where
  page : Page
  progress : Progress

def openedWith (session : Session) (body : Json) (elapsed : Nat) : Opened :=
  let page := Page.ofResponse body
  { page
    progress :=
      { encoder :=
          { format := session.options.format
            download := session.options.download
            metadata := session.options.metadata
            columns := presetColumns session.options.format page session.select }
        scrollId := page.scrollId
        live := page.scrollId.isSome
        elapsed } }

/-- Opens a cursor for a query that is ready for the engine. -/
def openCursor (session : Session) (index : String) (query : Query) :
    List Event × Except QueryError Opened :=
  match query.toSql with
  | .error cause => ([], .error (.emit cause))
  | .ok sql =>
    let explained := Event.explain sql
    match session.engine.explain.result with
    | .error cause => ([explained], .error (explainError cause))
    | .ok native =>
      let native := NativeQuery.withSortDefaults native
      let searched := Event.search index native session.options.keepAlive
      match session.engine.search.result with
      | .error cause => ([explained, searched], .error (searchError index cause))
      | .ok body =>
        ([explained, searched],
          .ok (session.openedWith body
            (session.engine.explain.delay + session.engine.search.delay)))

/-- The rows of a page as the output format has them. -/
def rowsOf (session : Session) (page : Page) : List Record :=
  let rows := page.rows session.select
  match session.options.format with
  | .geoJson => rows.map Row.toFeature
  | _ => rows

end Session

end SearchSql
