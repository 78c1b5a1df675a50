import SearchSql.Proofs.Query.Fields
import SearchSql.Proofs.Session.History

/-!
# The stages of a run

A run looks up the mapping, opens a cursor, reads pages, closes the document, and concludes. The
relations of this file list what each stage may come to, so that a property of all runs is proved
stage by stage: `Session.Opens` for the cursor, `Session.Closes` for the end of the document,
`Session.Streams` for everything that is given to the consumer, and `Query.Runs` for the whole.
-/

namespace SearchSql

namespace Session

variable (session : Session)

/-- The ways of opening a cursor, each with what was done and what came of it. -/
inductive Opens (index : String) (query : Query) : List Event × Except QueryError Opened → Prop
  | unwritten {cause : EmitError} (fails : query.toSql = .error cause) :
      Opens index query ([], .error (.emit cause))
  | unexplained {sql : String} {cause : BackendError} (writes : query.toSql = .ok sql)
      (fails : session.engine.explain.result = .error cause) :
      Opens index query ([.explain sql], .error (explainError cause))
  | unfound {sql : String} {native : Json} {cause : BackendError}
      (writes : query.toSql = .ok sql) (explains : session.engine.explain.result = .ok native)
      (fails : session.engine.search.result = .error cause) :
      Opens index query
        ([.explain sql,
            .search index (NativeQuery.withSortDefaults native) session.options.keepAlive],
          .error (searchError index cause))
  | found {sql : String} {native body : Json} (writes : query.toSql = .ok sql)
      (explains : session.engine.explain.result = .ok native)
      (finds : session.engine.search.result = .ok body) :
      Opens index query
        ([.explain sql,
            .search index (NativeQuery.withSortDefaults native) session.options.keepAlive],
          .ok (session.openedWith body
            (session.engine.explain.delay + session.engine.search.delay)))

theorem opens_openCursor (index : String) (query : Query) :
    session.Opens index query (session.openCursor index query) := by
  unfold openCursor
  cases writes : query.toSql with
  | error cause => exact .unwritten writes
  | ok sql =>
    cases explains : session.engine.explain.result with
    | error cause => exact .unexplained writes explains
    | ok native =>
      cases finds : session.engine.search.result with
      | error cause => exact .unfound writes explains finds
      | ok body => exact .found writes explains finds

/-- The ways of closing the document once the reading of pages has stopped. -/
inductive Closes (stop : Stop) (progress : Progress) : Step Stop → Prop
  | already (isClosed : progress.encoder.closed = true) :
      Closes stop progress ⟨[], progress, .ok stop⟩
  | refused {chunk reason : String} {encoder : Encoder}
      (encodes : progress.encoder.encode [] false = .ok (chunk, encoder))
      (refuses : session.consumer.write progress.writes = .error reason) :
      Closes stop progress ⟨[.refused chunk], wrote progress encoder, .error (.io reason)⟩
  | tail {chunk : String} {encoder : Encoder}
      (encodes : progress.encoder.encode [] false = .ok (chunk, encoder))
      (takes : session.consumer.write progress.writes = .ok ()) :
      Closes stop progress ⟨[.chunk chunk], wrote progress encoder, .ok stop⟩

/-- The ways of streaming an opened session, each with what was done and what came of it. -/
inductive Streams (opened : Opened) : Step Stop → Prop
  /-- The aggregations were not taken. -/
  | refused {tree : Record} {id : Option String} {chunk reason : String} {encoder : Encoder}
      (isTree : opened.page = .aggregations tree id)
      (encodes : opened.progress.encoder.encode (session.rowsOf opened.page) false =
        .ok (chunk, encoder))
      (refuses : session.consumer.write opened.progress.writes = .error reason) :
      Streams opened
        ⟨[.refused chunk],
          wrote { opened.progress with returned := (session.rowsOf opened.page).length } encoder,
          .error (.io reason)⟩
  | aggregated {tree : Record} {id : Option String} {chunk : String} {encoder : Encoder}
      (isTree : opened.page = .aggregations tree id)
      (encodes : opened.progress.encoder.encode (session.rowsOf opened.page) false =
        .ok (chunk, encoder))
      (takes : session.consumer.write opened.progress.writes = .ok ()) :
      Streams opened
        ⟨[.chunk chunk],
          wrote { opened.progress with returned := (session.rowsOf opened.page).length } encoder,
          .ok .exhausted⟩
  /-- The reading of pages failed. -/
  | failed {found : List Json} {id : Option String} {total : Option Nat} {step : Step Stop}
      {cause : QueryError} (isPage : opened.page = .hits found id total)
      (reads : session.Reads opened.progress opened.page step)
      (fails : step.result = .error cause) :
      Streams opened ⟨step.events, step.progress, .error cause⟩
  | read {found : List Json} {id : Option String} {total : Option Nat} {step tail : Step Stop}
      {stop : Stop} (isPage : opened.page = .hits found id total)
      (reads : session.Reads opened.progress opened.page step)
      (stops : step.result = .ok stop) (closes : session.Closes stop step.progress tail) :
      Streams opened ⟨step.events ++ tail.events, tail.progress, tail.result⟩

variable {session}

theorem exists_closes_of_ok (session : Session) {step : Step Stop} {stop : Stop}
    (stops : step.result = .ok stop) :
    ∃ tail, session.Closes stop step.progress tail ∧
      session.writeTail step = ⟨step.events ++ tail.events, tail.progress, tail.result⟩ := by
  cases isClosed : step.progress.encoder.closed with
  | true =>
    refine ⟨_, .already isClosed, ?_⟩
    simp [writeTail, stops, isClosed]
    rw [← stops]
  | false =>
    rcases Encoder.exists_encode isClosed [] false with ⟨chunk, encoder, encodes⟩
    have finishes : step.progress.encoder.finish = .ok (chunk, encoder) := by
      simpa [Encoder.finish, isClosed] using encodes
    cases writes : session.consumer.write step.progress.writes with
    | error reason =>
      refine ⟨_, .refused encodes writes, ?_⟩
      simp [writeTail, stops, isClosed, finishes, write, writes, wrote, Except.map]
    | ok accepted =>
      refine ⟨_, .tail encodes writes, ?_⟩
      simp [writeTail, stops, isClosed, finishes, write, writes, wrote, Except.map]

/-- An open document is closed by a batch without rows. -/
theorem writeTail_of_open {step : Step Stop} {stop : Stop} (stops : step.result = .ok stop)
    (isOpen : step.progress.encoder.closed = false) :
    session.writeTail step =
      let written := session.writeRows step.progress [] false
      ⟨step.events ++ written.events, written.progress, written.result.map fun () => stop⟩ := by
  rcases Encoder.exists_encode isOpen [] false with ⟨chunk, encoder, encodes⟩
  have finishes : step.progress.encoder.finish = .ok (chunk, encoder) := by
    simpa [Encoder.finish, isOpen] using encodes
  simp [writeTail, stops, isOpen, finishes, writeRows, encodes]

theorem streams_of_stream {turns : Nat} {opened : Opened} {streamed : Step Stop}
    (isOpen : opened.progress.encoder.closed = false)
    (ran : session.stream turns opened = some streamed) : session.Streams opened streamed := by
  unfold stream at ran
  split at ran
  next tree id isPage =>
    rw [Option.some.injEq] at ran
    subst ran
    rcases Encoder.exists_encode isOpen (session.rowsOf opened.page) false with
      ⟨chunk, encoder, encodes⟩
    cases writes : session.consumer.write opened.progress.writes with
    | error reason =>
      simp only [writeAggregations, writeRows, encodes, write, writes, Except.map]
      exact .refused isPage encodes writes
    | ok accepted =>
      simp only [writeAggregations, writeRows, encodes, write, writes, Except.map]
      exact .aggregated isPage encodes writes
  next found id total isPage =>
    rw [Option.map_eq_some_iff] at ran
    rcases ran with ⟨step, looped, rfl⟩
    have reads := reads_of_loop looped
    cases result : step.result with
    | error cause =>
      simp only [writeTail, result]
      exact .failed isPage reads result
    | ok stop =>
      rcases exists_closes_of_ok session result with ⟨tail, closes, tailed⟩
      rw [tailed]
      exact .read isPage reads result closes

/-- All that a session does after its terminal operation is to release the cursor. -/
theorem events_release (progress : Progress) :
    (session.release progress).events =
      if progress.live then progress.scrollId.toList.map Event.clear else [] := by
  cases live : progress.live <;> cases id : progress.scrollId <;> simp [release, live, id]

/-- Reading pages is made of scroll calls and writes. -/
theorem Reads.isScroll_or_isWrite_of_mem {progress : Progress} {page : Page} {step : Step Stop}
    (reads : session.Reads progress page step) {event : Event} (member : event ∈ step.events) :
    event.isScroll = true ∨ event.isWrite = true := by
  induction reads with
  | late | exhausted | full => cases member
  | @unanswered progress page | @closed progress page =>
    exact Or.inl ((session.looks_ahead progress page).isScroll_of_mem member)
  | @refused progress page | @last progress page =>
    rcases List.mem_append.mp member with looked | written
    · exact Or.inl ((session.looks_ahead progress page).isScroll_of_mem looked)
    · rw [List.mem_singleton.mp written]
      exact Or.inr rfl
  | @next progress page following chunk encoder rest due looked encodes takes continues ih =>
    rcases List.mem_append.mp member with before | after
    · rcases List.mem_append.mp before with looked | written
      · exact Or.inl ((session.looks_ahead progress page).isScroll_of_mem looked)
      · rw [List.mem_singleton.mp written]
        exact Or.inr rfl
    · exact ih after

theorem Streams.isScroll_or_isWrite_of_mem {opened : Opened} {streamed : Step Stop}
    (streams : session.Streams opened streamed) {event : Event} (member : event ∈ streamed.events) :
    event.isScroll = true ∨ event.isWrite = true := by
  cases streams with
  | refused | aggregated =>
    rw [List.mem_singleton.mp member]
    exact Or.inr rfl
  | failed isPage reads fails => exact reads.isScroll_or_isWrite_of_mem member
  | read isPage reads stops closes =>
    rcases List.mem_append.mp member with before | tail
    · exact reads.isScroll_or_isWrite_of_mem before
    · cases closes with
      | already => cases tail
      | refused | tail =>
        rw [List.mem_singleton.mp tail]
        exact Or.inr rfl

/-- The release is one event at most. -/
theorem release_eq (progress : Progress) :
    (session.release progress).events = [] ∨
      ∃ id, (session.release progress).events = [.clear id] := by
  rw [events_release]
  cases progress.live <;> cases progress.scrollId <;> simp

theorem clear_mem_release_iff {progress : Progress} :
    (∃ id, .clear id ∈ (session.release progress).events) ↔
      progress.live = true ∧ progress.scrollId.isSome = true := by
  rw [events_release]
  cases progress.live <;> cases progress.scrollId <;> simp

theorem eq_clear_of_mem_release {progress : Progress} {event : Event}
    (member : event ∈ (session.release progress).events) : ∃ id, event = .clear id := by
  rw [events_release] at member
  split at member
  · rcases List.mem_map.mp member with ⟨id, _, rfl⟩
    exact ⟨id, rfl⟩
  · cases member

/-- A session ends with a terminal operation and the release of the cursor. -/
theorem events_conclude (session : Session) (streamed : Step Stop) :
    ∃ last, last.isTerminal = true ∧ (session.conclude streamed).events =
      streamed.events ++ last :: (session.release streamed.progress).events := by
  cases result : streamed.result with
  | error cause => exact ⟨.abort cause, rfl, by simp [conclude, result]⟩
  | ok stop => exact ⟨.finish, rfl, by simp [conclude, result]⟩

theorem Opens.onlyCalls {index : String} {query : Query} {events : List Event}
    {result : Except QueryError Opened} (opens : session.Opens index query (events, result)) :
    OnlyCalls events := by
  intro event member
  cases opens with
  | unwritten => cases member
  | unexplained =>
    rw [List.mem_singleton.mp member]
    rfl
  | unfound | found =>
    simp only [List.mem_cons, List.not_mem_nil, or_false] at member
    rcases member with rfl | rfl <;> rfl

theorem Opens.any_isSearch {index : String} {query : Query} {events : List Event} {opened : Opened}
    (opens : session.Opens index query (events, .ok opened)) :
    events.any Event.isSearch = true := by
  cases opens
  rfl

/-- If no cursor was opened, then the search was not made or has failed. -/
theorem Opens.page?_eq_none {index : String} {query : Query} {events : List Event}
    {cause : QueryError} (opens : session.Opens index query (events, .error cause))
    (asked : events.any Event.isSearch = true) : session.engine.search.page? = none := by
  cases opens with
  | unwritten | unexplained => cases asked
  | unfound writes explains fails => exact Reply.page?_of_error fails

/-- The first page of a session is what the engine found. -/
theorem Opens.page_eq {index : String} {query : Query} {events : List Event} {opened : Opened}
    (opens : session.Opens index query (events, .ok opened)) :
    ∃ body, session.engine.search.result = .ok body ∧ opened.page = Page.ofResponse body := by
  cases opens with
  | found writes explains finds => exact ⟨_, finds, rfl⟩

/-- A cursor that was just opened follows from what was done to open it, and before that. -/
theorem Opens.follows {index : String} {query : Query} {events before : List Event}
    {opened : Opened} (opens : session.Opens index query (events, .ok opened))
    (silent : ∀ event ∈ before, event.isQuiet = true ∧ event.isRefusal = false) :
    session.Follows (before ++ events) [] opened.progress opened.page := by
  have noScroll : before.countP Event.isScroll = 0 := by
    simpa using fun event member => (Event.not_calls_of_isQuiet (silent event member).1).2.2
  cases opens with
  | @found sql native body writes explains finds =>
    have brings : session.engine.search.page? = some (Page.ofResponse body) :=
      Reply.page?_of_ok finds
    have replies : ∀ native' : Json, session.engine.cursorReplies (before ++
        [.explain sql, .search index native' session.options.keepAlive]) =
          [session.engine.search] := by
      intro native'
      simp [Engine.cursorReplies, noScroll, Event.isSearch, Event.isScroll]
    constructor
    · simp [noScroll, Session.openedWith, Event.isScroll]
    · simp [Engine.elapsed, replies, Event.isExplain, Session.openedWith]
    · simp [Engine.fetchedPages, replies, brings, cursorId, Session.openedWith]
    · rfl
    · left
      simp [Engine.fetchedPages, replies, brings, Session.openedWith]
    · simp [replies, brings]
    · simpa [or_imp, forall_and, Event.isRefusal] using fun event member => (silent event member).2
    · simp
    · rfl
    · simp
    · rfl

theorem Opens.scrollId_eq {index : String} {query : Query} {events : List Event} {opened : Opened}
    (opens : session.Opens index query (events, .ok opened)) :
    opened.progress.scrollId = opened.page.scrollId := by
  cases opens
  rfl

end Session

namespace Query

variable (query : Query)

/-- The look-up of the mapping, for a query that needs one. -/
def lookUps (index : String) : List Event := if query.needsMapping then [.mapping index] else []

theorem onlyCalls_lookUps (index : String) : OnlyCalls (query.lookUps index) := by
  intro event member
  unfold lookUps at member
  split at member
  · rw [List.mem_singleton.mp member]
    rfl
  · cases member

theorem any_isSearch_lookUps (index : String) :
    (query.lookUps index).any Event.isSearch = false := by
  cases needs : query.needsMapping <;> simp [lookUps, needs, Event.isSearch]

/-- The mapping that a query is prepared with. -/
def mappingFrom (engine : Engine) : Except BackendError Mapping :=
  if query.needsMapping then engine.mapping else .ok []

/-- The session of a query, once there is a mapping. -/
def session (engine : Engine) (consumer : Consumer) (options : Options) (mapping : Mapping) :
    Session :=
  { engine, consumer, select := query.select, limit := (query.prepare mapping).limit, options }

/-- The limit of a query, with the one that a grouping gets. -/
def effectiveLimit : Option Nat := query.withGroupLimit.limit

theorem limit_prepare (mapping : Mapping) :
    (query.prepare mapping).limit = query.effectiveLimit := by
  rw [prepare_eq, effectiveLimit]

/-- The ways in which a run may go, each with what was done and what came of it. -/
inductive Runs (engine : Engine) (consumer : Consumer) (options : Options) (index : String) :
    Run → Prop
  | unmapped {cause : BackendError} (fails : query.mappingFrom engine = .error cause) :
      Runs engine consumer options index (Run.failed (query.lookUps index) (.mappingLookup cause))
  | unopened {mapping : Mapping} {events : List Event} {cause : QueryError}
      (maps : query.mappingFrom engine = .ok mapping)
      (fails : (query.session engine consumer options mapping).Opens index
        (query.prepare mapping) (events, .error cause)) :
      Runs engine consumer options index (Run.failed (query.lookUps index ++ events) cause)
  | streamed {mapping : Mapping} {events : List Event} {opened : Session.Opened}
      {streamed : Step Stop} (maps : query.mappingFrom engine = .ok mapping)
      (opens : (query.session engine consumer options mapping).Opens index
        (query.prepare mapping) (events, .ok opened))
      (streams : (query.session engine consumer options mapping).Streams opened streamed) :
      Runs engine consumer options index
        (Run.after (query.lookUps index ++ events)
          ((query.session engine consumer options mapping).conclude streamed))

variable {query}

theorem execute_eq (engine : Engine) (consumer : Consumer) (options : Options) (turns : Nat)
    (index : String) :
    query.execute engine consumer options turns index =
      match query.mappingFrom engine with
      | .error cause => some (Run.failed (query.lookUps index) (.mappingLookup cause))
      | .ok mapping =>
        ((query.session engine consumer options mapping).run turns index
          (query.prepare mapping)).map (Run.after (query.lookUps index)) := rfl

theorem runs_of_execute {engine : Engine} {consumer : Consumer} {options : Options} {turns : Nat}
    {index : String} {run : Run}
    (ran : query.execute engine consumer options turns index = some run) :
    query.Runs engine consumer options index run := by
  rw [execute_eq] at ran
  cases maps : query.mappingFrom engine with
  | error cause =>
    simp only [maps, Option.some.injEq] at ran
    subst ran
    exact .unmapped maps
  | ok mapping =>
    simp only [maps, Option.map_eq_some_iff] at ran
    rcases ran with ⟨inner, ran, rfl⟩
    have opens :=
      (query.session engine consumer options mapping).opens_openCursor index (query.prepare mapping)
    unfold Session.run at ran
    generalize (query.session engine consumer options mapping).openCursor index
      (query.prepare mapping) = opening at ran opens
    rcases opening with ⟨events, cause | opened⟩
    · simp only [Option.some.injEq] at ran
      subst ran
      simp only [Run.after, Run.failed, ← List.append_assoc]
      exact .unopened maps opens
    · simp only [Session.drive, Option.map_map, Option.map_eq_some_iff, Function.comp] at ran
      rcases ran with ⟨streamed, streams, rfl⟩
      have isOpen : opened.progress.encoder.closed = false := by
        cases opens
        rfl
      simp only [Run.after, ← List.append_assoc]
      exact .streamed maps opens (Session.streams_of_stream isOpen streams)

/-- A cursor that was just opened follows from what was done to open it. -/
theorem follows_of_opens {engine : Engine} {consumer : Consumer} {options : Options}
    {mapping : Mapping} {index : String} {prepared : Query} {events : List Event}
    {opened : Session.Opened}
    (opens : (query.session engine consumer options mapping).Opens index prepared
      (events, .ok opened)) :
    (query.session engine consumer options mapping).Follows (query.lookUps index ++ events) []
      opened.progress opened.page := by
  refine opens.follows fun event isLookUp => ?_
  unfold lookUps at isLookUp
  split at isLookUp
  · rw [List.mem_singleton.mp isLookUp]
    exact ⟨rfl, rfl⟩
  · cases isLookUp

end Query

end SearchSql
