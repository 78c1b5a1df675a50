import SearchSql.Session.Basic

/-!
# Running a session

A session writes the rows of one page after the other. It looks one page ahead, since the last chunk
closes the document, and it stops when a page has no hits, when the limit is reached, or when the
budget is found to be spent at the start of a turn. A call that is under way is never cut short.

Whatever happens, the consumer gets one terminal operation: `finish` after the last chunk, or
`abort` when something failed. After that the cursor is released, unless the engine has let go of it
by giving a page without hits.

The number of turns is not bounded by anything in a session, because an engine may give pages for
ever. `Session.loop` therefore takes a number of turns, and is `none` when they do not suffice.
-/

namespace SearchSql

/-- Why the reading of pages ended. -/
inductive Stop
  | exhausted
  | limitReached
  | timedOut
deriving DecidableEq

/-- What a turn leaves to do: nothing, or a further page. -/
inductive Turn
  | stop (stop : Stop)
  | next (page : Page)

namespace Session

/-- Gives a chunk to the consumer. -/
def write (session : Session) (progress : Progress) (chunk : String) : Step Unit :=
  let progress' := { progress with writes := progress.writes + 1 }
  match session.consumer.write progress.writes with
  | .ok () => ⟨[.chunk chunk], progress', .ok ()⟩
  | .error reason => ⟨[.refused chunk], progress', .error (.io reason)⟩

/-- Encodes rows and gives the chunk to the consumer. -/
def writeRows (session : Session) (progress : Progress) (rows : List Record) (more : Bool) :
    Step Unit :=
  match progress.encoder.encode rows more with
  | .error cause => ⟨[], progress, .error cause⟩
  | .ok (chunk, encoder) => session.write { progress with encoder } chunk

/-- Asks for the next page. Without an identifier to ask under there is none. -/
def fetch (session : Session) (progress : Progress) : Step Page :=
  match progress.scrollId with
  | none => ⟨[], progress, .ok Page.last⟩
  | some id =>
    let reply := session.engine.scroll progress.scrolls
    let progress :=
      { progress with
        scrolls := progress.scrolls + 1
        elapsed := progress.elapsed + reply.delay }
    let events := [Event.scroll id session.options.keepAlive]
    match reply.result with
    | .error cause => ⟨events, progress, .error (.backend cause)⟩
    | .ok body =>
      let page := Page.ofResponse body
      ⟨events, { progress with scrollId := page.scrollId.or progress.scrollId }, .ok page⟩

def limitReached (session : Session) (returned : Nat) : Bool :=
  match session.limit with
  | some limit => limit ≤ returned
  | none => false

/-- The rows of a page, up to the limit. -/
def rowsWithin (session : Session) (returned : Nat) (page : Page) : List Record :=
  match session.limit with
  | some limit => (session.rowsOf page).take (limit - returned)
  | none => session.rowsOf page

/-- Fetches the next page if the limit leaves room for it. -/
def lookAhead (session : Session) (progress : Progress) : Step (Option Page) :=
  if session.limitReached progress.returned then ⟨[], progress, .ok none⟩
  else
    let fetched := session.fetch progress
    ⟨fetched.events, fetched.progress, fetched.result.map some⟩

/-- Whether there is a further page and it has hits. -/
def hasMore : Option Page → Bool
  | some page => 0 < page.hitCount
  | none => false

/-- Writes the rows of a page that has hits, after looking at the page that follows. -/
def turnOver (session : Session) (progress : Progress) (page : Page) : Step Turn :=
  let rows := session.rowsWithin progress.returned page
  let ahead :=
    session.lookAhead { progress with returned := progress.returned + rows.length }
  match ahead.result with
  | .error cause => ⟨ahead.events, ahead.progress, .error cause⟩
  | .ok next =>
    let written := session.writeRows ahead.progress rows (hasMore next)
    ⟨ahead.events ++ written.events, written.progress,
      written.result.map fun () => (next.map Turn.next).getD (.stop .limitReached)⟩

/-- One turn: stops if there is a reason to, and otherwise writes the page. -/
def turn (session : Session) (progress : Progress) (page : Page) : Step Turn :=
  if session.options.timeout < progress.elapsed then ⟨[], progress, .ok (.stop .timedOut)⟩
  else if page.hitCount = 0 then
    ⟨[], { progress with live := false }, .ok (.stop .exhausted)⟩
  else if session.limitReached progress.returned then
    ⟨[], progress, .ok (.stop .limitReached)⟩
  else session.turnOver progress page

/-- Takes turns until one stops or fails. -/
def loop (session : Session) : Nat → Progress → Page → Option (Step Stop)
  | 0, _, _ => none
  | turns + 1, progress, page =>
    let taken := session.turn progress page
    match taken.result with
    | .error cause => some ⟨taken.events, taken.progress, .error cause⟩
    | .ok (.stop stop) => some ⟨taken.events, taken.progress, .ok stop⟩
    | .ok (.next page) =>
      (loop session turns taken.progress page).map fun rest =>
        { rest with events := taken.events ++ rest.events }

/-- Closes the document if the last chunk has not. -/
def writeTail (session : Session) (step : Step Stop) : Step Stop :=
  match step.result with
  | .error cause => ⟨step.events, step.progress, .error cause⟩
  | .ok stop =>
    if step.progress.encoder.closed then step
    else
      match step.progress.encoder.finish with
      | .error cause => ⟨step.events, step.progress, .error cause⟩
      | .ok (chunk, encoder) =>
        let written := session.write { step.progress with encoder } chunk
        ⟨step.events ++ written.events, written.progress, written.result.map fun () => stop⟩

/-- Writes an aggregated result, which is a single page. -/
def writeAggregations (session : Session) (progress : Progress) (page : Page) : Step Stop :=
  let rows := session.rowsOf page
  let written := session.writeRows { progress with returned := rows.length } rows false
  { written with result := written.result.map fun () => .exhausted }

def stream (session : Session) (turns : Nat) (opened : Opened) : Option (Step Stop) :=
  match opened.page with
  | .aggregations .. => some (session.writeAggregations opened.progress opened.page)
  | .hits .. => (session.loop turns opened.progress opened.page).map session.writeTail

end Session

/-- All that a session did, and what came of it. -/
structure Run where
  events : List Event
  result : Except QueryError Outcome

/-- A run that fails before there is anything to write. -/
def Run.failed (events : List Event) (cause : QueryError) : Run :=
  ⟨events ++ [.abort cause], .error cause⟩

/-- A run after some events. -/
def Run.after (events : List Event) (run : Run) : Run :=
  { run with events := events ++ run.events }

namespace Session

/--
Releases the cursor if the engine still holds it. The engine lets go of a cursor by itself in the
end, so whoever releases one may pass over a failure.
-/
def release (session : Session) (progress : Progress) : Step Unit :=
  match progress.live, progress.scrollId with
  | true, some id =>
    let reply := session.engine.clear progress.scrolls
    ⟨[.clear id],
      { progress with
        live := false
        scrollId := none
        elapsed := progress.elapsed + reply.delay },
      reply.result.mapError .backend⟩
  | _, _ => ⟨[], { progress with live := false }, .ok ()⟩

def outcome (progress : Progress) : Stop → Outcome
  | .timedOut => .overBudget progress.returned
  | _ => .completed progress.returned

/-- Ends the stream with its terminal operation and releases the cursor. -/
def conclude (session : Session) (streamed : Step Stop) : Run :=
  let released := (session.release streamed.progress).events
  match streamed.result with
  | .error cause => ⟨streamed.events ++ .abort cause :: released, .error cause⟩
  | .ok stop =>
    ⟨streamed.events ++ .finish :: released,
      match session.consumer.finish with
      | .error reason => .error (.io reason)
      | .ok () => .ok (outcome streamed.progress stop)⟩

/-- Streams an opened session to its end; `none` when the turns do not suffice. -/
def drive (session : Session) (turns : Nat) (opened : Opened) : Option Run :=
  (session.stream turns opened).map session.conclude

/-- Opens a session for a query that is ready for the engine, and streams it to its end. -/
def run (session : Session) (turns : Nat) (index : String) (query : Query) : Option Run :=
  match session.openCursor index query with
  | (events, .error cause) => some (Run.failed events cause)
  | (events, .ok opened) =>
    (session.drive turns opened).map (Run.after events)

end Session

/--
Looks up the mapping that a query needs, prepares the query, and runs it on an index. A failure
before the first page aborts the consumer too.
-/
def Query.execute (query : Query) (engine : Engine) (consumer : Consumer) (options : Options)
    (turns : Nat) (index : String) : Option Run :=
  let looked := if query.needsMapping then [Event.mapping index] else []
  match if query.needsMapping then engine.mapping else .ok [] with
  | .error cause => some (Run.failed looked (.mappingLookup cause))
  | .ok mapping =>
    let prepared := query.prepare mapping
    let session : Session :=
      { engine, consumer, select := query.select, limit := prepared.limit, options }
    (session.run turns index prepared).map (Run.after looked)

end SearchSql
