import SearchSql.Proofs.Session.Consumer
import SearchSql.Proofs.Session.Document

/-!
# The life of a cursor

A cursor is opened by the search, kept by the scroll calls and released by `clear`. The calls come
in this order, each scroll call asks under the latest identifier, and none is made once there is a
reason not to. The release is the very last event of a run, and nothing depends on what comes of it.

A cursor is not released when the engine has let go of it already, that is when the reading of pages
came, in time, to a page without hits. `Engine.RunsOut` tells this from the events of a run.
-/

namespace SearchSql

/-- What holds whenever the next page is asked for. -/
structure Query.AllowsScroll (query : Query) (engine : Engine) (options : Options)
    (history : List Event) (id keepAlive : String) : Prop where
  keepAlive : keepAlive = options.keepAlive
  latest : cursorId (engine.fetchedPages history) = some id
  hits : ∀ page ∈ engine.fetchedPages history, page.hitCount ≠ 0
  room : ∀ limit, query.effectiveLimit = some limit →
    (query.fetchedRows engine options history).length < limit
  inTime : engine.elapsed history ≤ options.timeout
  answered : ∀ reply ∈ engine.cursorReplies history, reply.page? ≠ none
  listening : ∀ event ∈ history, event.isTerminal = false ∧ event.isRefusal = false

/-- What holds whenever a cursor is released. -/
structure Engine.AllowsClear (engine : Engine) (history : List Event) (id : String) : Prop where
  latest : cursorId (engine.fetchedPages history) = some id
  ended : ∃ event ∈ history, event.isTerminal = true

/-- The conditions of the calls about a cursor. -/
def Query.AllowsCall (query : Query) (engine : Engine) (options : Options)
    (history : List Event) : Event → Prop
  | .scroll id keepAlive => query.AllowsScroll engine options history id keepAlive
  | .clear id => engine.AllowsClear history id
  | _ => True

/--
The reading of pages came, in time, to a page without hits. If another page was read before, it was
written and taken.
-/
structure Engine.RunsOut (engine : Engine) (timeout : Nat) (events : List Event) : Prop where
  paged : ∃ found id total, engine.search.page? = some (.hits found id total)
  noHits : ∃ page, (engine.fetchedPages events).getLast? = some page ∧ page.hitCount = 0
  inTime : engine.elapsed events ≤ timeout
  accepted : (engine.fetchedPages events).length ≠ 1 → ∀ event ∈ events, event.isRefusal = false

/-- The calls up to the first page are these, or the first of these. -/
def Query.IsOpening (query : Query) (options : Options) (index : String) (calls : List Event) :
    Prop :=
  ∃ sql native,
    calls <+: query.lookUps index ++ [.explain sql, .search index native options.keepAlive]

/-- The calls of a run to the engine, and what is true of each. -/
structure Query.KeepsCursor (query : Query) (engine : Engine) (options : Options) (index : String)
    (events : List Event) : Prop where
  calls : ∃ opening scrolls released,
    events.filter Event.isEngineCall = opening ++ scrolls ++ released ∧
      query.IsOpening options index opening ∧ (∀ event ∈ scrolls, event.isScroll = true) ∧
      (released = [] ∨ ∃ id, released = [.clear id])
  scrolls : ∀ before id keepAlive after, events = before ++ .scroll id keepAlive :: after →
    query.AllowsScroll engine options before id keepAlive
  clears : ∀ before id after, events = before ++ .clear id :: after →
    after = [] ∧ engine.AllowsClear before id
  released : (∃ id, .clear id ∈ events) ↔
    (events.any Event.isSearch = true ∧
      ∃ page id, engine.search.page? = some page ∧ page.scrollId = some id) ∧
    ¬ engine.RunsOut options.timeout events

namespace Session

variable {session : Session} {history : List Event} {progress : Progress}

/-- Looking ahead keeps to the latest identifier, and neither finds a cursor nor loses it. -/
theorem Looks.latest {step : Step (Option Page)} (looks : session.Looks progress step)
    (scrolls : progress.scrolls = history.countP Event.isScroll)
    (cursor : progress.scrollId = cursorId (session.engine.fetchedPages history)) :
    step.progress.scrollId = cursorId (session.engine.fetchedPages (history ++ step.events)) ∧
      step.progress.scrollId.isSome = progress.scrollId.isSome := by
  cases looks with
  | full | cursorless =>
    rw [List.append_nil]
    exact ⟨cursor, rfl⟩
  | failed room held fails =>
    rw [scrolls] at fails
    refine ⟨?_, rfl⟩
    simpa [scrolled, Reply.page?_of_error fails] using cursor
  | fetched room held brings =>
    rw [scrolls] at brings
    refine ⟨?_, ?_⟩
    · simp [Reply.page?_of_ok brings, cursor]
    · simp [held]

variable (session) in
/-- After the reading of pages the cursor is held unless there was none or it ran out. -/
structure Holds (history : List Event) (before : Progress) (step : Step Stop) : Prop where
  latest : step.progress.scrollId = cursorId (session.engine.fetchedPages (history ++ step.events))
  kept : step.progress.scrollId.isSome = before.scrollId.isSome
  live : step.progress.live = true ↔ before.scrollId.isSome = true ∧ step.result ≠ .ok .exhausted

theorem holds_of_reads {page : Page} {step : Step Stop} (reads : session.Reads progress page step)
    {earlier : List Page} (follows : session.Follows history earlier progress page) :
    session.Holds history progress step := by
  induction reads generalizing history earlier with
  | late | full =>
    refine ⟨?_, rfl, ?_⟩
    · rw [List.append_nil]
      exact follows.cursor
    · simp [follows.live]
  | exhausted =>
    refine ⟨?_, rfl, ?_⟩
    · rw [List.append_nil]
      exact follows.cursor
    · simp
  | @unanswered progress page | @closed progress page =>
    have looks := session.looks_ahead progress page
    have latest := looks.latest follows.scrolls follows.cursor
    refine ⟨latest.1, latest.2, ?_⟩
    simp [looks.progress_eq.2.2.2, counted, follows.live]
  | @refused progress page next chunk | @last progress page chunk =>
    have looks := session.looks_ahead progress page
    have latest := looks.latest follows.scrolls follows.cursor
    refine ⟨?_, latest.2, ?_⟩
    · rw [← List.append_assoc, Engine.fetchedPages_append_single _ rfl]
      exact latest.1
    · simp [wrote, looks.progress_eq.2.2.2, counted, follows.live]
  | @next progress page following chunk encoder rest due looked encodes takes continues ih =>
    have looks := session.looks_ahead progress page
    have latest := looks.latest follows.scrolls follows.cursor
    have later := ih (follows.next due looked encodes)
    refine ⟨?_, later.kept.trans latest.2, ?_⟩
    · rw [← List.append_assoc]
      exact later.latest
    · rw [later.live, wrote, latest.2]
      exact Iff.rfl

theorem not_runsOut_of_hits {engine : Engine} {timeout : Nat} {events : List Event}
    {earlier : List Page} {page : Page} (fetched : engine.fetchedPages events = earlier ++ [page])
    (hits : page.hitCount ≠ 0) : ¬ engine.RunsOut timeout events := by
  intro runsOut
  rcases runsOut.noHits with ⟨last, isLast, noHits⟩
  rw [fetched, List.getLast?_concat, Option.some.injEq] at isLast
  rw [isLast] at hits
  exact hits noHits

/-- A scroll call without an answer leaves the page with hits the last. -/
theorem not_runsOut_of_unanswered {earlier : List Page} {page : Page} {cause : QueryError}
    (follows : session.Follows history earlier progress page) (due : session.Due progress page)
    (fails : (session.ahead progress page).result = .error cause) :
    ¬ session.engine.RunsOut session.options.timeout
      (history ++ (session.ahead progress page).events) := by
  have fetched := follows.fetched_of_hits due.hits
  have looks := session.looks_ahead progress page
  generalize session.ahead progress page = ahead at fails looks ⊢
  cases looks with
  | full | cursorless | fetched => cases fails
  | @failed id cause room held unanswered =>
    change (session.engine.scroll progress.scrolls).result = _ at unanswered
    rw [follows.scrolls] at unanswered
    have stillLast : session.engine.fetchedPages
        (history ++ [.scroll id session.options.keepAlive]) = earlier ++ [page] := by
      simp [Reply.page?_of_error unanswered, fetched]
    exact not_runsOut_of_hits stillLast due.hits

/-- A page that reaches the limit is the last, and it has hits. -/
theorem not_runsOut_of_last {earlier : List Page} {page : Page} {chunk : String}
    (follows : session.Follows history earlier progress page) (due : session.Due progress page)
    (looked : (session.ahead progress page).result = .ok none) :
    ¬ session.engine.RunsOut session.options.timeout
      (history ++ ((session.ahead progress page).events ++ [.chunk chunk])) := by
  have looks := session.looks_ahead progress page
  generalize session.ahead progress page = ahead at looked looks ⊢
  cases looks with
  | cursorless | failed | fetched => cases looked
  | full =>
    have stillLast : session.engine.fetchedPages (history ++ [.chunk chunk]) =
        earlier ++ [page] := by
      rw [Engine.fetchedPages_append_single _ (Event.isQuiet_chunk chunk)]
      exact follows.fetched_of_hits due.hits
    exact not_runsOut_of_hits stillLast due.hits

/-- A page whose chunk was refused was not the last, unless it reached the limit. -/
theorem not_runsOut_of_refused {earlier : List Page} {page : Page} {next : Option Page}
    {chunk : String} (follows : session.Follows history earlier progress page)
    (due : session.Due progress page) (cursor : progress.scrollId.isSome = true)
    (looked : (session.ahead progress page).result = .ok next) :
    ¬ session.engine.RunsOut session.options.timeout
      (history ++ ((session.ahead progress page).events ++ [.refused chunk])) := by
  have fetched := follows.fetched_of_hits due.hits
  have looks := session.looks_ahead progress page
  generalize session.ahead progress page = ahead at looked looks ⊢
  rw [← List.append_assoc]
  cases looks with
  | full =>
    have stillLast : session.engine.fetchedPages (history ++ [] ++ [.refused chunk]) =
        earlier ++ [page] := by
      rw [Engine.fetchedPages_append_single _ (Event.isQuiet_refused chunk), List.append_nil,
        fetched]
    exact not_runsOut_of_hits stillLast due.hits
  | failed => cases looked
  | cursorless room noCursor =>
    change progress.scrollId = none at noCursor
    rw [noCursor] at cursor
    cases cursor
  | @fetched id body room held brings =>
    intro runsOut
    change (session.engine.scroll progress.scrolls).result = .ok body at brings
    rw [follows.scrolls] at brings
    have several := runsOut.accepted (by
      rw [Engine.fetchedPages_append_single _ (Event.isQuiet_refused chunk)]
      simp [Reply.page?_of_ok brings, fetched])
    have refusal := several (.refused chunk) (by simp)
    cases refusal

/-- The reading of pages is exhausted if and only if the pages have run out. -/
theorem exhausted_iff_of_reads {page : Page} {step : Step Stop}
    (reads : session.Reads progress page step) {earlier : List Page}
    (follows : session.Follows history earlier progress page)
    (cursor : progress.scrollId.isSome = true)
    (paged : ∃ found id total, session.engine.search.page? = some (.hits found id total)) :
    step.result = .ok .exhausted ↔
      session.engine.RunsOut session.options.timeout (history ++ step.events) := by
  induction reads generalizing history earlier with
  | @late progress page spent =>
    refine ⟨nofun, fun runsOut => ?_⟩
    have inTime := runsOut.inTime
    rw [List.append_nil, ← follows.elapsed] at inTime
    exact absurd spent (Nat.not_lt.mpr inTime)
  | @exhausted progress page inTime noHits =>
    refine ⟨fun _ => ?_, fun _ => rfl⟩
    rw [List.append_nil]
    rcases follows.pages with fetched | ⟨_, _, _, noCursor⟩
    · refine ⟨paged, ⟨page, ?_, noHits⟩, ?_, fun _ => follows.accepted⟩
      · rw [fetched, List.getLast?_concat]
      · rw [← follows.elapsed]
        exact inTime
    · rw [noCursor] at cursor
      cases cursor
  | full inTime hits reached =>
    refine ⟨nofun, fun runsOut => ?_⟩
    rw [List.append_nil] at runsOut
    exact absurd runsOut (not_runsOut_of_hits (follows.fetched_of_hits hits) hits)
  | unanswered due fails =>
    exact ⟨nofun, fun runsOut => absurd runsOut (not_runsOut_of_unanswered follows due fails)⟩
  | @closed progress page next cause due looked fails =>
    have isOpen : (session.ahead progress page).progress.encoder.closed = false := by
      rw [(session.looks_ahead progress page).progress_eq.1]
      exact follows.open_of_due due
    rcases Encoder.exists_encode isOpen (session.rowsDue progress page) (hasMore next) with
      ⟨_, _, encodes⟩
    rw [encodes] at fails
    cases fails
  | refused due looked encodes refuses =>
    exact ⟨nofun, fun runsOut =>
      absurd runsOut (not_runsOut_of_refused follows due cursor looked)⟩
  | last due looked encodes takes =>
    exact ⟨nofun, fun runsOut => absurd runsOut (not_runsOut_of_last follows due looked)⟩
  | @next progress page following chunk encoder rest due looked encodes takes continues ih =>
    have looks := session.looks_ahead progress page
    have latest := looks.latest follows.scrolls follows.cursor
    rw [← List.append_assoc]
    exact ih (follows.next due looked encodes) (latest.2.trans cursor)

/-- Pages that ran out leave an encoder that is closed, unless the very first page had no hits. -/
theorem closed_of_exhausted {page : Page} {step : Step Stop}
    (reads : session.Reads progress page step) {earlier : List Page}
    (follows : session.Follows history earlier progress page)
    (exhausted : step.result = .ok .exhausted) :
    step.progress.encoder.closed = true ∨
      (session.engine.fetchedPages (history ++ step.events)).length = 1 := by
  induction reads generalizing history earlier with
  | late | full | unanswered | closed | refused | last => cases exhausted
  | exhausted inTime noHits =>
    rw [List.append_nil]
    cases earlier with
    | nil =>
      rcases follows.pages with fetched | ⟨_, some, _⟩
      · exact Or.inr (by rw [fetched]; rfl)
      · exact absurd rfl some
    | cons =>
      left
      rw [follows.closed]
      simp [noHits]
  | next due looked encodes takes continues ih =>
    rw [← List.append_assoc]
    exact ih (follows.next due looked encodes) exhausted

theorem runsOut_of_append {engine : Engine} {timeout : Nat} {events later : List Event}
    (quiet : ∀ event ∈ later, event.isQuiet = true)
    (runsOut : engine.RunsOut timeout (events ++ later)) : engine.RunsOut timeout events := by
  rcases runsOut with ⟨paged, noHits, inTime, accepted⟩
  rw [Engine.fetchedPages_append_quiet quiet] at noHits accepted
  rw [Engine.elapsed_append_quiet quiet] at inTime
  exact ⟨paged, noHits, inTime, fun several event member =>
    accepted several event (List.mem_append_left _ member)⟩

theorem runsOut_append {engine : Engine} {timeout : Nat} {events later : List Event}
    (quiet : ∀ event ∈ later, event.isQuiet = true)
    (taken : (engine.fetchedPages events).length ≠ 1 → ∀ event ∈ later, event.isRefusal = false)
    (runsOut : engine.RunsOut timeout events) : engine.RunsOut timeout (events ++ later) := by
  rcases runsOut with ⟨paged, noHits, inTime, accepted⟩
  refine ⟨paged, ?_, ?_, ?_⟩
  · rw [Engine.fetchedPages_append_quiet quiet]
    exact noHits
  · rw [Engine.elapsed_append_quiet quiet]
    exact inTime
  · rw [Engine.fetchedPages_append_quiet quiet]
    intro several event member
    rcases List.mem_append.mp member with before | after
    · exact accepted several event before
    · exact taken several event after

theorem Closes.isQuiet_of_mem {stop : Stop} {tail : Step Stop}
    (closes : session.Closes stop progress tail) : ∀ event ∈ tail.events, event.isQuiet = true := by
  intro event member
  cases closes with
  | already => cases member
  | refused | tail =>
    rw [List.mem_singleton.mp member]
    rfl

/-- Closing the document does nothing to the cursor. -/
theorem Closes.cursor_eq {stop : Stop} {tail : Step Stop}
    (closes : session.Closes stop progress tail) :
    tail.progress.scrollId = progress.scrollId ∧ tail.progress.live = progress.live := by
  cases closes <;> exact ⟨rfl, rfl⟩

/-- What the stream has done to the cursor. -/
structure Keeps (session : Session) (history : List Event) (opened : Opened)
    (streamed : Step Stop) : Prop where
  latest : streamed.progress.scrollId =
    cursorId (session.engine.fetchedPages (history ++ streamed.events))
  kept : streamed.progress.scrollId.isSome = opened.progress.scrollId.isSome
  live : streamed.progress.live = true ↔ opened.progress.scrollId.isSome = true ∧
    ¬ session.engine.RunsOut session.options.timeout (history ++ streamed.events)

theorem keeps_of_tree {opened : Opened} {tree : Record} {id : Option String} {event : Event}
    {encoder : Encoder} {result : Except QueryError Stop}
    (follows : session.Follows history [] opened.progress opened.page)
    (first : session.engine.search.page? = some opened.page)
    (isTree : opened.page = .aggregations tree id) (quiet : event.isQuiet = true) :
    session.Keeps history opened
      ⟨[event],
        wrote { opened.progress with returned := (session.rowsOf opened.page).length } encoder,
        result⟩ := by
  refine ⟨?_, rfl, ?_⟩
  · rw [Engine.fetchedPages_append_single _ quiet]
    exact follows.cursor
  · rw [wrote, follows.live, iff_self_and]
    intro _ runsOut
    rcases runsOut.paged with ⟨found, id', total, isPage⟩
    rw [first, isTree] at isPage
    cases isPage

theorem keeps_of_streams {opened : Opened} {streamed : Step Stop}
    (streams : session.Streams opened streamed)
    (follows : session.Follows history [] opened.progress opened.page)
    (first : session.engine.search.page? = some opened.page) :
    session.Keeps history opened streamed := by
  cases streams with
  | refused isTree => exact keeps_of_tree follows first isTree rfl
  | aggregated isTree => exact keeps_of_tree follows first isTree rfl
  | @failed found id total step cause isPage reads fails =>
    rw [isPage] at first
    have holds := holds_of_reads reads follows
    refine ⟨holds.latest, holds.kept, ?_⟩
    rw [holds.live, ← fails]
    exact and_congr_right fun cursor =>
      not_congr (exhausted_iff_of_reads reads follows cursor ⟨_, _, _, first⟩)
  | @read found id total step tail stop isPage reads stops closes =>
    rw [isPage] at first
    have holds := holds_of_reads reads follows
    have quiet := closes.isQuiet_of_mem
    refine ⟨?_, ?_, ?_⟩
    · rw [closes.cursor_eq.1, ← List.append_assoc, Engine.fetchedPages_append_quiet quiet]
      exact holds.latest
    · rw [closes.cursor_eq.1]
      exact holds.kept
    · rw [closes.cursor_eq.2, holds.live, ← List.append_assoc]
      refine and_congr_right fun cursor => not_congr ?_
      have exhausted := exhausted_iff_of_reads reads follows cursor ⟨_, _, _, first⟩
      refine ⟨fun isExhausted => runsOut_append quiet ?_ (exhausted.mp isExhausted),
        fun runsOut => exhausted.mpr (runsOut_of_append quiet runsOut)⟩
      -- a closing chunk is due only if the very first page had no hits
      intro several event member
      rcases closed_of_exhausted reads follows isExhausted with isClosed | one
      · cases closes with
        | already => cases member
        | refused encodes | tail encodes =>
          rw [(Encoder.closed_of_encode encodes).1] at isClosed
          cases isClosed
      · exact absurd one several

section WithClear

variable (session : Session) (clear : Nat → Reply Unit)

/-- The same session with an engine that replies differently to a release. -/
def withClear : Session := { session with engine := { session.engine with clear } }

theorem loop_withClear (turns : Nat) (progress : Progress) (page : Page) :
    (session.withClear clear).loop turns progress page = session.loop turns progress page := by
  induction turns generalizing progress page with
  | zero => rfl
  | succ turns ih =>
    have sameTurn : (session.withClear clear).turn progress page = session.turn progress page := rfl
    rw [loop, loop, sameTurn]
    simp only [ih]

theorem drive_withClear (turns : Nat) (opened : Opened) :
    (session.withClear clear).drive turns opened = session.drive turns opened := by
  have sameStream : (session.withClear clear).stream turns opened =
      session.stream turns opened := by
    unfold stream
    simp only [loop_withClear]
    rfl
  have sameEnd : (session.withClear clear).conclude = session.conclude := by
    funext streamed
    simp only [conclude, events_release]
    rfl
  rw [drive, drive, sameStream, sameEnd]

theorem run_withClear (turns : Nat) (index : String) (query : Query) :
    (session.withClear clear).run turns index query = session.run turns index query := by
  unfold run
  simp only [drive_withClear]
  rfl

end WithClear

end Session

namespace Query

variable {query : Query} {engine : Engine} {consumer : Consumer} {options : Options}
  {mapping : Mapping} {history : List Event}

theorem allowsCall_of_isWrite {event : Event} (isWrite : event.isWrite = true) :
    query.AllowsCall engine options history event := by
  cases event with
  | scroll | clear => cases isWrite
  | _ => trivial

theorem allowsScroll_of_due {earlier : List Page} {progress : Progress} {page : Page} {id : String}
    (follows : (query.session engine consumer options mapping).Follows history earlier progress
      page)
    (listens : Session.Listens history progress)
    (due : (query.session engine consumer options mapping).Due progress page)
    (room : (query.session engine consumer options mapping).limitReached
      ((query.session engine consumer options mapping).counted progress page).returned = false)
    (cursor : progress.scrollId = some id) :
    query.AllowsScroll engine options history id options.keepAlive := by
  have rows : query.fetchedRows engine options history =
      earlier.flatMap (query.rowsOf options) ++ query.rowsOf options page :=
    follows.fetchedRows_of_hits due.hits
  have counts : ((query.session engine consumer options mapping).counted progress page).returned =
      (query.fetchedRows engine options history).length := by
    rw [Session.returned_counted, Session.rowsDue_eq_rowsOf room, follows.returned, rows,
      List.length_append]
    rfl
  have limit : (query.session engine consumer options mapping).limit = query.effectiveLimit :=
    query.limit_prepare mapping
  rw [Session.limitReached_eq_false_iff, counts, limit] at room
  refine ⟨rfl, ?_, ?_, room, ?_, follows.answered, listens.listening⟩
  · rw [← cursor, follows.cursor]
    rfl
  · intro page' member
    have fetched : engine.fetchedPages history = earlier ++ [page] :=
      follows.fetched_of_hits due.hits
    rw [fetched] at member
    rcases List.mem_append.mp member with before | last
    · exact follows.hits page' before
    · rw [List.mem_singleton.mp last]
      exact due.hits
  · have inTime := due.inTime
    rw [follows.elapsed] at inTime
    exact inTime

theorem allowed_ahead {earlier : List Page} {progress : Progress} {page : Page}
    (follows : (query.session engine consumer options mapping).Follows history earlier progress
      page)
    (listens : Session.Listens history progress)
    (due : (query.session engine consumer options mapping).Due progress page) :
    Allowed (query.AllowsCall engine options) history
      ((query.session engine consumer options mapping).ahead progress page).events := by
  have looks := (query.session engine consumer options mapping).looks_ahead progress page
  generalize (query.session engine consumer options mapping).ahead progress page = ahead at looks ⊢
  cases looks with
  | full | cursorless => trivial
  | failed room cursor | fetched room cursor =>
    exact ⟨allowsScroll_of_due follows listens due room cursor, trivial⟩

/-- Every call that is made while pages are read has its conditions. -/
theorem allowed_of_reads {progress : Progress} {page : Page} {step : Step Stop}
    (reads : (query.session engine consumer options mapping).Reads progress page step)
    {earlier : List Page}
    (follows : (query.session engine consumer options mapping).Follows history earlier progress
      page)
    (listens : Session.Listens history progress) :
    Allowed (query.AllowsCall engine options) history step.events := by
  induction reads generalizing history earlier with
  | late | exhausted | full => trivial
  | unanswered due | closed due => exact allowed_ahead follows listens due
  | refused due | last due =>
    rw [Allowed.append_iff]
    exact ⟨allowed_ahead follows listens due, allowsCall_of_isWrite rfl, trivial⟩
  | @next progress page following chunk encoder rest due looked encodes takes continues ih =>
    have looks := (query.session engine consumer options mapping).looks_ahead progress page
    have listens' := (listens.after_calls looks.onlyCalls looks.progress_eq.2.1).after_chunk
      chunk encoder
    rw [List.append_assoc] at listens'
    rw [Allowed.append_iff, Allowed.append_iff]
    exact ⟨⟨allowed_ahead follows listens due, allowsCall_of_isWrite rfl, trivial⟩,
      ih (follows.next due looked encodes) listens'⟩

theorem allowed_of_streams {opened : Session.Opened} {streamed : Step Stop}
    (streams : (query.session engine consumer options mapping).Streams opened streamed)
    (follows : (query.session engine consumer options mapping).Follows history [] opened.progress
      opened.page) (listens : Session.Listens history opened.progress) :
    Allowed (query.AllowsCall engine options) history streamed.events := by
  cases streams with
  | refused | aggregated => exact ⟨allowsCall_of_isWrite rfl, trivial⟩
  | failed isPage reads =>
    have allowed := allowed_of_reads reads follows listens
    exact allowed
  | read isPage reads stops closes =>
    rw [Allowed.append_iff]
    refine ⟨allowed_of_reads reads follows listens, ?_⟩
    cases closes with
    | already => trivial
    | refused | tail => exact ⟨allowsCall_of_isWrite rfl, trivial⟩

theorem isOpening_of_opens {index : String} {prepared : Query} {events : List Event}
    {result : Except QueryError Session.Opened}
    (opens : (query.session engine consumer options mapping).Opens index prepared
      (events, result)) : query.IsOpening options index (query.lookUps index ++ events) := by
  cases opens with
  | unwritten =>
    refine ⟨"", .null, ?_⟩
    rw [List.prefix_append_right_inj]
    exact List.nil_prefix
  | @unexplained sql =>
    refine ⟨sql, .null, ?_⟩
    rw [List.prefix_append_right_inj]
    exact List.prefix_append [Event.explain sql] _
  | unfound | found => exact ⟨_, _, List.prefix_rfl⟩

/-- Nothing is asked of a cursor before there is one. -/
theorem IsOpening.not_cursorCall {index : String} {calls : List Event}
    (opening : query.IsOpening options index calls) {event : Event} (member : event ∈ calls) :
    event.isScroll = false ∧ ∀ id, event ≠ .clear id := by
  rcases opening with ⟨sql, native, opening⟩
  have inAll := opening.subset member
  cases needs : query.needsMapping <;>
    simp only [lookUps, needs, if_true, if_false, Bool.false_eq_true, List.mem_append,
      List.mem_cons, List.not_mem_nil, or_false, false_or] at inAll
  · rcases inAll with rfl | rfl <;> exact ⟨rfl, fun id => Event.noConfusion⟩
  · rcases inAll with rfl | rfl | rfl <;> exact ⟨rfl, fun id => Event.noConfusion⟩

theorem IsOpening.allowed {index : String} {calls : List Event}
    (opening : query.IsOpening options index calls) :
    Allowed (query.AllowsCall engine options) history calls := by
  apply Allowed.of_forall
  intro before event member
  rcases opening.not_cursorCall member with ⟨noScroll, noClear⟩
  cases event with
  | scroll => cases noScroll
  | clear id => exact absurd rfl (noClear id)
  | _ => trivial

theorem keepsCursor_of_failed {index : String} {calls : List Event} {cause : QueryError}
    (opening : query.IsOpening options index calls) (onlyCalls : OnlyCalls calls)
    (unfound : calls.any Event.isSearch = true → engine.search.page? = none) :
    query.KeepsCursor engine options index (Run.failed calls cause).events := by
  have allowed : Allowed (query.AllowsCall engine options) [] (calls ++ [.abort cause]) := by
    rw [Allowed.append_iff]
    exact ⟨opening.allowed, trivial, trivial⟩
  have noClear : ∀ id, .clear id ∉ calls ++ [.abort cause] := by
    intro id member
    rcases List.mem_append.mp member with call | last
    · exact (opening.not_cursorCall call).2 id rfl
    · cases List.mem_singleton.mp last
  refine ⟨⟨calls, [], [], ?_, opening, nofun, Or.inl rfl⟩, ?_, ?_, ?_⟩
  · simp [Run.failed, List.filter_eq_self.mpr onlyCalls, Event.isEngineCall]
  · intro before id keepAlive after isRun
    simp only [Run.failed] at isRun
    rw [isRun] at allowed
    exact allowed.split
  · intro before id after isRun
    simp only [Run.failed] at isRun
    exact absurd (isRun ▸ List.mem_append_right before List.mem_cons_self) (noClear id)
  · constructor
    · rintro ⟨id, member⟩
      exact absurd member (noClear id)
    · rintro ⟨⟨asked, page, id, brings, _⟩, _⟩
      have asked' : calls.any Event.isSearch = true := by
        simpa [Run.failed, Event.isSearch] using asked
      rw [unfound asked'] at brings
      cases brings

/-- What comes after an event that only the end of a list holds, if that end is short. -/
theorem eq_nil_of_not_mem {front back before after : List Event} {event : Event}
    (isRun : front ++ back = before ++ event :: after) (absent : event ∉ front)
    (short : back.length ≤ 1) : after = [] := by
  rcases List.append_eq_append_iff.mp isRun with ⟨middle, rfl, isBack⟩ | ⟨middle, isFront, isRest⟩
  · rw [isBack, List.length_append, List.length_cons] at short
    exact List.length_eq_zero_iff.mp (by omega)
  · cases middle with
    | nil =>
      rw [← List.nil_append back, ← isRest, List.length_cons] at short
      exact List.length_eq_zero_iff.mp (by omega)
    | cons first rest =>
      rw [List.cons_append, List.cons.injEq] at isRest
      exact absurd (by simp [isFront, isRest.1]) absent

/-- A run keeps to the order of the calls by the order of its parts. -/
theorem keepsCursor_of_parts {index : String} {calls middle back : List Event} {last : Event}
    (opening : query.IsOpening options index calls) (onlyCalls : OnlyCalls calls)
    (streaming : ∀ event ∈ middle, event.isScroll = true ∨ event.isWrite = true)
    (isLast : last.isTerminal = true) (isBack : back = [] ∨ ∃ id, back = [.clear id])
    (allowed : Allowed (query.AllowsCall engine options) [] (calls ++ middle ++ [last] ++ back))
    (released : (∃ id, .clear id ∈ back) ↔
      ((calls ++ middle ++ [last] ++ back).any Event.isSearch = true ∧
        ∃ page id, engine.search.page? = some page ∧ page.scrollId = some id) ∧
      ¬ engine.RunsOut options.timeout (calls ++ middle ++ [last] ++ back)) :
    query.KeepsCursor engine options index (calls ++ middle ++ [last] ++ back) := by
  have scrolls : ∀ event ∈ middle.filter Event.isEngineCall, event.isScroll = true := by
    intro event member
    rcases List.mem_filter.mp member with ⟨inMiddle, isCall⟩
    rcases streaming event inMiddle with isScroll | isWrite
    · exact isScroll
    · rw [(Event.silent_of_isEngineCall isCall).1] at isWrite
      cases isWrite
  have noClear : ∀ id, .clear id ∉ calls ++ middle ++ [last] := by
    intro id member
    rcases List.mem_append.mp member with before | terminal
    · rcases List.mem_append.mp before with call | inMiddle
      · exact (opening.not_cursorCall call).2 id rfl
      · rcases streaming _ inMiddle with isScroll | isWrite
        · cases isScroll
        · cases isWrite
    · rw [← List.mem_singleton.mp terminal] at isLast
      cases isLast
  have short : back.length ≤ 1 := by
    rcases isBack with rfl | ⟨id, rfl⟩ <;> simp
  refine ⟨⟨calls, middle.filter Event.isEngineCall, back, ?_, opening, scrolls, isBack⟩, ?_, ?_, ?_⟩
  · have noCall : [last].filter Event.isEngineCall = [] := by
      simp [(Event.quiet_of_isTerminal isLast).2.2]
    have allCalls : back.filter Event.isEngineCall = back := by
      rcases isBack with rfl | ⟨id, rfl⟩ <;> rfl
    rw [List.filter_append, List.filter_append, List.filter_append, noCall, allCalls,
      List.filter_eq_self.mpr onlyCalls, List.append_nil]
  · intro before id keepAlive after isRun
    rw [isRun] at allowed
    exact allowed.split
  · intro before id after isRun
    refine ⟨eq_nil_of_not_mem isRun (noClear id) short, ?_⟩
    rw [isRun] at allowed
    exact allowed.split
  · rw [← released]
    refine exists_congr fun id => ?_
    rw [List.mem_append]
    exact or_iff_right (noClear id)

/-- The release, if there is one, has its conditions. -/
theorem allowed_release {session : Session} {progress : Progress}
    (latest : progress.scrollId = cursorId (engine.fetchedPages history))
    (ended : ∃ event ∈ history, event.isTerminal = true) :
    Allowed (query.AllowsCall engine options) history (session.release progress).events := by
  rw [Session.events_release]
  split
  · cases cursor : progress.scrollId with
    | none => trivial
    | some id => exact ⟨⟨latest ▸ cursor, ended⟩, trivial⟩
  · trivial

theorem allowsCall_of_isTerminal {event : Event} (isTerminal : event.isTerminal = true) :
    query.AllowsCall engine options history event := by
  cases event with
  | scroll | clear => cases isTerminal
  | _ => trivial

/-- What comes after the stream does not change whether the pages ran out. -/
theorem runsOut_concluded_iff {session : Session} {streamed : Step Stop} {last : Event}
    (isLast : last.isTerminal = true) :
    engine.RunsOut options.timeout
        (history ++ [last] ++ (session.release streamed.progress).events) ↔
      engine.RunsOut options.timeout history := by
  have silent : ∀ event ∈ [last] ++ (session.release streamed.progress).events,
      event.isQuiet = true ∧ event.isRefusal = false := by
    intro event member
    rcases List.mem_append.mp member with terminal | released
    · rw [List.mem_singleton.mp terminal]
      have quiet := Event.quiet_of_isTerminal isLast
      exact ⟨quiet.1, quiet.2.1⟩
    · rcases Session.eq_clear_of_mem_release released with ⟨id, rfl⟩
      exact ⟨rfl, rfl⟩
  rw [List.append_assoc]
  exact ⟨Session.runsOut_of_append fun event member => (silent event member).1,
    Session.runsOut_append (fun event member => (silent event member).1)
      fun _ event member => (silent event member).2⟩

theorem keepsCursor_of_streams {index : String} {prepared : Query} {events : List Event}
    {opened : Session.Opened} {streamed : Step Stop}
    (opens : (query.session engine consumer options mapping).Opens index prepared
      (events, .ok opened))
    (streams : (query.session engine consumer options mapping).Streams opened streamed) :
    query.KeepsCursor engine options index (Run.after (query.lookUps index ++ events)
      ((query.session engine consumer options mapping).conclude streamed)).events := by
  have opening := isOpening_of_opens opens
  have follows := follows_of_opens opens
  rcases opens.page_eq with ⟨body, finds, isFirst⟩
  have first : engine.search.page? = some opened.page := by
    rw [isFirst]
    exact Reply.page?_of_ok finds
  have keeps := Session.keeps_of_streams streams follows first
  rcases (query.session engine consumer options mapping).events_conclude streamed with
    ⟨last, isLast, concludes⟩
  rw [Run.after, concludes, List.append_cons, ← List.append_assoc, ← List.append_assoc]
  refine keepsCursor_of_parts opening ((query.onlyCalls_lookUps index).append opens.onlyCalls)
    (fun _ => streams.isScroll_or_isWrite_of_mem) isLast (Session.release_eq _) ?_ ?_
  · have quiet := (Event.quiet_of_isTerminal isLast).1
    rw [Allowed.append_iff, Allowed.append_iff, Allowed.append_iff]
    refine ⟨⟨⟨opening.allowed, allowed_of_streams streams follows (listens_of_opens opens)⟩,
      allowsCall_of_isTerminal isLast, trivial⟩, allowed_release ?_ ⟨last, by simp, isLast⟩⟩
    rw [List.nil_append, Engine.fetchedPages_append_single _ quiet]
    exact keeps.latest
  · rw [Session.clear_mem_release_iff, keeps.kept, keeps.live, runsOut_concluded_iff isLast,
      opens.scrollId_eq]
    constructor
    · rintro ⟨⟨_, stays⟩, cursor⟩
      rcases Option.isSome_iff_exists.mp cursor with ⟨id, isCursor⟩
      refine ⟨⟨?_, opened.page, id, first, isCursor⟩, stays⟩
      simp only [List.any_append, opens.any_isSearch, Bool.or_true, Bool.true_or]
    · rintro ⟨⟨_, page, id, brings, isCursor⟩, stays⟩
      rw [first, Option.some.injEq] at brings
      rw [brings, isCursor]
      exact ⟨⟨rfl, stays⟩, rfl⟩

/-- Nothing depends on what comes of a release. -/
theorem execute_withClear (clear : Nat → Reply Unit) (turns : Nat) (index : String) :
    query.execute { engine with clear } consumer options turns index =
      query.execute engine consumer options turns index := by
  have sameMapping : query.mappingFrom { engine with clear } = query.mappingFrom engine := rfl
  rw [execute_eq, execute_eq, sameMapping]
  cases query.mappingFrom engine with
  | error cause => rfl
  | ok mapping =>
    exact congrArg (Option.map (Run.after (query.lookUps index)))
      ((query.session engine consumer options mapping).run_withClear clear turns index
        (query.prepare mapping))

/--
The calls of a run about a cursor come in order and each has its conditions. The cursor is released
at the very end if and only if it was opened and the pages did not run out, and nothing depends on
what the engine replies to the release.
-/
theorem keepsCursor_of_execute {turns : Nat} {index : String} {run : Run}
    (ran : query.execute engine consumer options turns index = some run) :
    query.KeepsCursor engine options index run.events ∧
      ∀ clear, query.execute { engine with clear } consumer options turns index = some run := by
  refine ⟨?_, fun clear => (execute_withClear clear turns index).trans ran⟩
  cases runs_of_execute ran with
  | unmapped =>
    refine keepsCursor_of_failed ⟨"", .null, List.prefix_append _ _⟩
      (query.onlyCalls_lookUps index) fun asked => ?_
    rw [any_isSearch_lookUps] at asked
    cases asked
  | unopened maps fails =>
    refine keepsCursor_of_failed (isOpening_of_opens fails)
      ((query.onlyCalls_lookUps index).append fails.onlyCalls) fun asked => ?_
    rw [List.any_append, any_isSearch_lookUps, Bool.false_or] at asked
    exact fails.page?_eq_none asked
  | streamed maps opens streams => exact keepsCursor_of_streams opens streams

/-- A limit in the middle of a page, and an engine that fails to release. -/
theorem keepsCursor_of_limit_one :
    let engine := { Engine.giving (Page.answer "s1" [[("a", .null)], [("a", .bool true)]]) [] with
      clear := fun _ => { result := .error (.status 500 "broken") } }
    ∃ run, ({ index := "points", limit := some 1 } : Query).execute engine .willing {} 1 "points" =
        some run ∧ run.result = .ok (.completed 1) ∧
      ({ index := "points", limit := some 1 } : Query).KeepsCursor engine {} "points"
        run.events := by
  intro engine
  exact ⟨_, rfl, rfl, (@keepsCursor_of_execute { index := "points", limit := some 1 } engine
    .willing {} 1 "points" _ rfl).1⟩

/--
A scroll call that is answered with aggregations leaves the cursor unreleased, although no page that
was fetched is a page of hits without any.
-/
theorem unreleased_of_late_aggregations :
    let engine := Engine.giving (Page.answer "s1" [[("a", .number (.integer 1))]])
      [.object [
        ("_scroll_id", .string "s2"),
        ("aggregations", .object [("m", .object [("value", .number (.integer 1))])])]]
    ∃ run, ({ index := "points" } : Query).execute engine .willing {} 2 "points" = some run ∧
      run.result = .ok (.completed 1) ∧
      (∃ page id, engine.search.page? = some page ∧ page.scrollId = some id) ∧
      (∀ page ∈ engine.fetchedPages run.events, ∀ id total, page ≠ .hits [] id total) ∧
      ∀ id, .clear id ∉ run.events := by
  intro engine
  refine ⟨_, rfl, rfl, ⟨_, _, rfl, rfl⟩, ?_, ?_⟩
  · have differ : ∀ page ∈
        [Page.hits [.object [("_source", .object [("a", .number (.integer 1))])]] (some "s1") none,
          Page.aggregations [("m", .object [("value", .number (.integer 1))])] (some "s2")],
        ∀ id total, page ≠ .hits [] id total := by simp
    exact differ
  · intro id member
    rcases member with _ | ⟨_, _ | ⟨_, _ | ⟨_, _ | ⟨_, _ | ⟨_, member⟩⟩⟩⟩⟩
    cases member

end Query

end SearchSql
