import SearchSql.Proofs.Session.Stages

/-!
# The document that a run writes

Whatever an engine answers and whenever it does, a run that ends well in JSON or GeoJSON has given
its consumer one whole document: the rows of all pages with hits, in order and without repetition,
cut off at the number of rows that the run says it returned.

The invariant is `Session.Pays`. As long as the encoder is open, what was given so far together with
what the encoder owes is the document of all rows, whichever rows are still to come. The chunk that
closes the encoder pays the debt, so that a second closing would be one too many.
-/

namespace SearchSql

namespace Session

variable (session : Session)

/-- The whole document of some rows, with the settings of a session. -/
def document (rows : List Record) : String :=
  envelope session.options.format session.options.download session.options.metadata rows

/-- What was given to the consumer is the document of the rows so far, less what is owed. -/
structure Pays (history : List Event) (rows : List Record) (encoder : Encoder) : Prop where
  json : encoder.format ≠ .csv
  whileOpen : encoder.closed = false → ∀ later,
    offeredText history ++ encoder.remaining later = session.document (rows ++ later)
  onceClosed : encoder.closed = true → offeredText history = session.document rows

/-- The rows of all pages with hits that the engine gave. -/
def fetchedRows (events : List Event) : List Record :=
  ((session.engine.fetchedPages events).filter (·.hitCount != 0)).flatMap session.rowsOf

/-- What is known of the rows once the reading of pages has stopped. -/
structure Stopped (history : List Event) (progress : Progress) (stop : Stop) : Prop where
  pays : session.Pays history ((session.fetchedRows history).take progress.returned)
    progress.encoder
  fetched : progress.returned ≤ (session.fetchedRows history).length
  limit : ∀ limit, session.limit = some limit → progress.returned ≤ limit
  full : stop = .limitReached → session.limit = some progress.returned
  exhausted : stop = .exhausted → progress.returned = (session.fetchedRows history).length ∧
    ((∃ page, (session.engine.fetchedPages history).getLast? = some page ∧ page.hitCount = 0) ∨
      cursorId (session.engine.fetchedPages history) = none)

variable {session} {history : List Event}

namespace Pays

/-- An encoder that takes a batch of rows pays for them, or for everything. -/
theorem encode {rows batch : List Record} {encoder next : Encoder} {more : Bool} {chunk : String}
    (pays : session.Pays history rows encoder)
    (encodes : encoder.encode batch more = .ok (chunk, next)) (history' : List Event)
    (gives : offeredText history' = offeredText history ++ chunk) :
    session.Pays history' (rows ++ batch) next := by
  rcases Encoder.closed_of_encode encodes with ⟨isOpen, closes⟩
  refine ⟨?_, ?_, ?_⟩
  · rw [(Encoder.settings_of_encode encodes).1]
    exact pays.json
  · intro stillOpen later
    cases more with
    | false =>
      rw [closes] at stillOpen
      cases stillOpen
    | true =>
      rw [gives, String.append_assoc, Encoder.append_remaining_of_encode pays.json encodes,
        pays.whileOpen isOpen, List.append_assoc]
  · intro nowClosed
    cases more with
    | true =>
      rw [closes] at nowClosed
      cases nowClosed
    | false =>
      rw [gives, Encoder.eq_remaining_of_encode pays.json encodes, pays.whileOpen isOpen]

end Pays

namespace Follows

variable {earlier : List Page} {progress : Progress} {page : Page}

theorem fetchedRows_of_hits (follows : session.Follows history earlier progress page)
    (hits : page.hitCount ≠ 0) :
    session.fetchedRows history = earlier.flatMap session.rowsOf ++ session.rowsOf page := by
  have kept : earlier.filter (·.hitCount != 0) = earlier := by
    simpa using follows.hits
  simp [fetchedRows, follows.fetched_of_hits hits, kept, hits]

theorem fetchedRows_of_noHits (follows : session.Follows history earlier progress page)
    (noHits : page.hitCount = 0) :
    session.fetchedRows history = earlier.flatMap session.rowsOf := by
  have kept : earlier.filter (·.hitCount != 0) = earlier := by
    simpa using follows.hits
  rcases follows.pages with fetched | ⟨fetched, _⟩
  · simp [fetchedRows, fetched, kept, noHits]
  · simp [fetchedRows, fetched, kept]

/-- The written rows come first among those that were fetched. -/
theorem take_fetchedRows (follows : session.Follows history earlier progress page) :
    (session.fetchedRows history).take progress.returned = earlier.flatMap session.rowsOf := by
  rw [follows.returned]
  by_cases noHits : page.hitCount = 0
  · rw [follows.fetchedRows_of_noHits noHits, List.take_length]
  · rw [follows.fetchedRows_of_hits noHits, List.take_left]

theorem returned_le_fetchedRows (follows : session.Follows history earlier progress page) :
    progress.returned ≤ (session.fetchedRows history).length := by
  have prefixLength := congrArg List.length follows.take_fetchedRows
  rw [List.length_take, ← follows.returned] at prefixLength
  omega

theorem returned_le_limit (follows : session.Follows history earlier progress page)
    {limit : Nat} (isLimit : session.limit = some limit) : progress.returned ≤ limit := by
  by_cases first : earlier = []
  · simp [follows.returned, first]
  · exact Nat.le_of_lt (limitReached_eq_false_iff.mp (follows.room first) limit isLimit)

/-- A session that stops at the start of a turn has written all it counted. -/
theorem stopped {stop : Stop} (follows : session.Follows history earlier progress page)
    (pays : session.Pays history (earlier.flatMap session.rowsOf) progress.encoder)
    (full : stop = .limitReached → session.limitReached progress.returned = true)
    (exhausted : stop = .exhausted → page.hitCount = 0) :
    session.Stopped history progress stop := by
  refine ⟨?_, follows.returned_le_fetchedRows, fun _ => follows.returned_le_limit,
    fun isFull => limit_of_limitReached (full isFull) fun _ => follows.returned_le_limit, ?_⟩
  · rw [follows.take_fetchedRows]
    exact pays
  · intro isExhausted
    have noHits := exhausted isExhausted
    refine ⟨?_, ?_⟩
    · rw [follows.fetchedRows_of_noHits noHits, follows.returned]
    · rcases follows.pages with fetched | ⟨_, _, _, noCursor⟩
      · exact Or.inl ⟨page, by rw [fetched, List.getLast?_concat], noHits⟩
      · exact Or.inr (follows.cursor ▸ noCursor)

/-- The page that reaches the limit is written as far as the limit goes. -/
theorem stopped_of_last {chunk : String} {encoder : Encoder}
    (follows : session.Follows history earlier progress page) (due : session.Due progress page)
    (pays : session.Pays history (earlier.flatMap session.rowsOf) progress.encoder)
    (encodes : progress.encoder.encode (session.rowsDue progress page) false = .ok (chunk, encoder))
    (reached : session.limitReached (session.counted progress page).returned = true) :
    session.Stopped (history ++ [.chunk chunk]) (wrote (session.counted progress page) encoder)
      .limitReached := by
  have fetched : session.fetchedRows (history ++ [.chunk chunk]) =
      earlier.flatMap session.rowsOf ++ session.rowsOf page := by
    rw [fetchedRows, Engine.fetchedPages_append_single _ (Event.isQuiet_chunk chunk)]
    exact follows.fetchedRows_of_hits due.hits
  have total : (wrote (session.counted progress page) encoder).returned =
      (earlier.flatMap session.rowsOf).length + (session.rowsDue progress page).length := by
    rw [← follows.returned]
    rfl
  have cut := session.rowsDue_prefix progress page
  have isLimit : session.limit = some (wrote (session.counted progress page) encoder).returned :=
    limit_of_limitReached reached fun _ isLimit =>
      returned_counted_le isLimit (follows.returned_le_limit isLimit)
  refine ⟨?_, ?_, ?_, fun _ => isLimit, nofun⟩
  · rw [fetched, total, List.take_length_add_append, ← List.prefix_iff_eq_take.mp cut]
    exact pays.encode encodes _ (by simp)
  · rw [fetched, total, List.length_append]
    exact Nat.add_le_add_left cut.length_le _
  · intro limit isLimit'
    rw [isLimit, Option.some.injEq] at isLimit'
    exact Nat.le_of_eq isLimit'

end Follows

/-- The reading of pages keeps the document whole, up to the page that stops it. -/
theorem stopped_of_reads {progress : Progress} {page : Page} {step : Step Stop} {stop : Stop}
    (reads : session.Reads progress page step) (stops : step.result = .ok stop)
    {earlier : List Page} (follows : session.Follows history earlier progress page)
    (pays : session.Pays history (earlier.flatMap session.rowsOf) progress.encoder) :
    session.Stopped (history ++ step.events) step.progress stop := by
  induction reads generalizing history earlier with
  | late spent =>
    cases stops
    rw [List.append_nil]
    exact follows.stopped pays nofun nofun
  | @exhausted progress page inTime noHits =>
    cases stops
    rw [List.append_nil]
    have stopped : session.Stopped history progress .exhausted :=
      follows.stopped pays nofun fun _ => noHits
    exact ⟨stopped.pays, stopped.fetched, stopped.limit, stopped.full, stopped.exhausted⟩
  | full inTime hits reached =>
    cases stops
    rw [List.append_nil]
    exact follows.stopped pays (fun _ => reached) nofun
  | unanswered => cases stops
  | closed => cases stops
  | refused => cases stops
  | @last progress page chunk encoder due looked encodes takes =>
    cases stops
    have looks := session.looks_ahead progress page
    generalize session.ahead progress page = ahead at looked encodes looks ⊢
    cases looks with
    | full reached => exact follows.stopped_of_last due pays encodes reached
    | cursorless | failed | fetched => cases looked
  | @next progress page following chunk encoder rest due looked encodes takes continues ih =>
    have looks := session.looks_ahead progress page
    have nextFollows := follows.next due looked encodes
    have room := nextFollows.room (by simp)
    rw [wrote, looks.progress_eq.2.2.1] at room
    have sameEncoder := looks.progress_eq.1
    rw [sameEncoder] at encodes
    have nextPays := pays.encode encodes
      (history ++ ((session.ahead progress page).events ++ [.chunk chunk]))
      (by simp [looks.offeredText_events])
    rw [rowsDue_eq_rowsOf room, ← List.flatMap_singleton session.rowsOf page,
      ← List.flatMap_append] at nextPays
    rw [← List.append_assoc]
    exact ih stops nextFollows nextPays

/-- Closing the document changes nothing but that it is closed. -/
theorem Stopped.of_closes {progress : Progress} {tail : Step Stop} {stop stop' : Stop}
    (stopped : session.Stopped history progress stop)
    (closes : session.Closes stop progress tail) (ends : tail.result = .ok stop') :
    session.Stopped (history ++ tail.events) tail.progress stop' ∧
      tail.progress.encoder.closed = true := by
  cases closes with
  | refused => cases ends
  | already isClosed =>
    cases ends
    rw [List.append_nil]
    exact ⟨stopped, isClosed⟩
  | @tail chunk encoder encodes takes =>
    cases ends
    have pages : session.engine.fetchedPages (history ++ [.chunk chunk]) =
        session.engine.fetchedPages history :=
      Engine.fetchedPages_append_single _ (Event.isQuiet_chunk chunk)
    have rows : session.fetchedRows (history ++ [.chunk chunk]) = session.fetchedRows history := by
      rw [fetchedRows, pages, fetchedRows]
    refine ⟨⟨?_, ?_, stopped.limit, stopped.full, ?_⟩, (Encoder.closed_of_encode encodes).2⟩
    · have tailPays := stopped.pays.encode encodes (history ++ [.chunk chunk]) (by simp)
      rw [List.append_nil] at tailPays
      rw [rows]
      exact tailPays
    · rw [rows]
      exact stopped.fetched
    · rw [rows, pages]
      exact stopped.exhausted

end Session

namespace Query

/-- The rows of a page as the output format has them, under the labels that the query asks for. -/
def rowsOf (query : Query) (options : Options) (page : Page) : List Record :=
  match options.format with
  | .geoJson => (page.rows query.select).map Row.toFeature
  | _ => page.rows query.select

/-- The rows of all pages with hits that an engine gave. -/
def fetchedRows (query : Query) (engine : Engine) (options : Options) (events : List Event) :
    List Record :=
  ((engine.fetchedPages events).filter (·.hitCount != 0)).flatMap (query.rowsOf options)

/--
What a run has written that ends well on pages of hits: the whole document of the rows that it says
it returned, which are the first of those that were fetched. It returned all that there are, or as
many as the limit allows, unless it ran out of time.
-/
structure WritesPages (query : Query) (engine : Engine) (options : Options) (events : List Event)
    (outcome : Outcome) : Prop where
  document : offeredText events = envelope options.format options.download options.metadata
    ((query.fetchedRows engine options events).take outcome.returned)
  fetched : outcome.returned ≤ (query.fetchedRows engine options events).length
  limit : ∀ limit, query.effectiveLimit = some limit → outcome.returned ≤ limit
  complete : ∀ returned, outcome = .completed returned →
    query.effectiveLimit = some returned ∨
      returned = (query.fetchedRows engine options events).length ∧
        ((∃ page, (engine.fetchedPages events).getLast? = some page ∧ page.hitCount = 0) ∨
          ∀ page, engine.search.page? = some page → page.scrollId = none)

/-- What a run has written that ends well on aggregations: the whole document as one chunk. -/
structure WritesTree (query : Query) (options : Options) (page : Page) (events : List Event)
    (outcome : Outcome) : Prop where
  document : events.filterMap Event.offered? =
    [envelope options.format options.download options.metadata (query.rowsOf options page)]
  complete : outcome = .completed (query.rowsOf options page).length

variable {query : Query} {engine : Engine} {consumer : Consumer} {options : Options}
  {mapping : Mapping} {index : String}

theorem pays_opened {prepared : Query} {events : List Event} {opened : Session.Opened}
    (json : options.format ≠ .csv)
    (opens : (query.session engine consumer options mapping).Opens index prepared
      (events, .ok opened)) :
    (query.session engine consumer options mapping).Pays (query.lookUps index ++ events) []
      opened.progress.encoder := by
  have silent := offeredText_of_silent
    ((query.onlyCalls_lookUps index).append opens.onlyCalls).not_isWrite
  cases opens with
  | found writes explains finds =>
    refine ⟨json, fun _ later => ?_, nofun⟩
    rw [silent]
    simp only [session, Session.openedWith, Encoder.remaining_fresh]
    simp [Session.document]

/-- Whatever comes after the stream adds nothing to the document and fetches nothing. -/
theorem after_stream (history : List Event) {session : Session} {streamed : Step Stop}
    {outcome : Outcome} (ended : (session.conclude streamed).result = .ok outcome) :
    ∃ stop, streamed.result = .ok stop ∧ outcome = Session.outcome streamed.progress stop ∧
      (history ++ (session.conclude streamed).events).filterMap Event.offered? =
        (history ++ streamed.events).filterMap Event.offered? ∧
      session.engine.fetchedPages (history ++ (session.conclude streamed).events) =
        session.engine.fetchedPages (history ++ streamed.events) := by
  cases result : streamed.result with
  | error cause => simp [Session.conclude, result] at ended
  | ok stop =>
    cases finishes : session.consumer.finish with
    | error reason => simp [Session.conclude, result, finishes] at ended
    | ok finished =>
      simp only [Session.conclude, result, finishes, Except.ok.injEq] at ended ⊢
      have last : ∀ event ∈ Event.finish :: (session.release streamed.progress).events,
          event.isWrite = false ∧ event.isQuiet = true := by
        intro event member
        rcases List.mem_cons.mp member with rfl | released
        · exact ⟨rfl, rfl⟩
        · rcases Session.eq_clear_of_mem_release released with ⟨id, rfl⟩
          exact ⟨rfl, rfl⟩
      refine ⟨stop, rfl, ended.symm, ?_, ?_⟩
      · rw [← List.append_assoc, List.filterMap_append,
          filterMap_offered?_of_silent fun event member => (last event member).1, List.append_nil]
      · rw [← List.append_assoc]
        exact Engine.fetchedPages_append_quiet fun event member => (last event member).2

theorem writesPages_of_stopped {events events' : List Event} {progress : Progress} {stop : Stop}
    {outcome : Outcome}
    (stopped : (query.session engine consumer options mapping).Stopped events progress stop)
    (isClosed : progress.encoder.closed = true) (asked : events.any Event.isSearch = true)
    (isOutcome : outcome = Session.outcome progress stop)
    (texts : events'.filterMap Event.offered? = events.filterMap Event.offered?)
    (pages : engine.fetchedPages events' = engine.fetchedPages events) :
    query.WritesPages engine options events' outcome := by
  have rows : query.fetchedRows engine options events' =
      (query.session engine consumer options mapping).fetchedRows events := by
    rw [fetchedRows, pages]
    rfl
  have returned : outcome.returned = progress.returned := by
    rw [isOutcome]
    cases stop <;> rfl
  have limit : (query.session engine consumer options mapping).limit = query.effectiveLimit :=
    query.limit_prepare mapping
  constructor
  · rw [rows, returned, offeredText, texts]
    exact stopped.pays.onceClosed isClosed
  · rw [rows, returned]
    exact stopped.fetched
  · rw [← limit, returned]
    exact stopped.limit
  · intro completed isCompleted
    rw [isCompleted] at returned isOutcome
    change completed = progress.returned at returned
    rw [rows, pages, ← limit, returned]
    cases stop with
    | timedOut => cases isOutcome
    | limitReached => exact Or.inl (stopped.full rfl)
    | exhausted =>
      rcases stopped.exhausted rfl with ⟨all, noHits | noCursor⟩
      · exact Or.inr ⟨all, Or.inl noHits⟩
      · refine Or.inr ⟨all, Or.inr fun page brings => ?_⟩
        exact scrollId_of_cursorId noCursor (Engine.mem_fetchedPages_of_isSearch asked brings)

/--
Streaming loses nothing, repeats nothing and is well formed: whatever the engine replies, a run that
ends well has given the consumer one whole document.
-/
theorem document_of_execute {turns : Nat} {run : Run} {outcome : Outcome}
    (ran : query.execute engine consumer options turns index = some run)
    (json : options.format ≠ .csv) (ended : run.result = .ok outcome) :
    ∃ body, engine.search.result = .ok body ∧
      match Page.ofResponse body with
      | .hits .. => query.WritesPages engine options run.events outcome
      | .aggregations .. =>
        query.WritesTree options (Page.ofResponse body) run.events outcome := by
  cases runs_of_execute ran with
  | unmapped => cases ended
  | unopened => cases ended
  | @streamed mapping events opened streamed maps opens streams =>
    have follows := follows_of_opens opens
    have pays := pays_opened json opens
    rcases opens.page_eq with ⟨body, finds, isFirst⟩
    rcases after_stream (query.lookUps index ++ events) ended with
      ⟨stop, stops, isOutcome, texts, pages⟩
    refine ⟨body, finds, ?_⟩
    rw [← isFirst]
    cases streams with
    | refused => cases stops
    | failed => cases stops
    | @aggregated tree id chunk encoder isTree encodes takes =>
      cases stops
      have silent := ((query.onlyCalls_lookUps index).append opens.onlyCalls).not_isWrite
      have gives : offeredText (query.lookUps index ++ events ++ [.chunk chunk]) = chunk := by
        rw [offeredText_append, offeredText_of_silent silent, offeredText_chunk,
          String.empty_append]
      have pays' := pays.encode encodes (query.lookUps index ++ events ++ [.chunk chunk])
        (by rw [offeredText_append, offeredText_chunk])
      have whole := pays'.onceClosed (Encoder.closed_of_encode encodes).2
      rw [gives, List.nil_append] at whole
      split
      next isPage =>
        rw [isTree] at isPage
        cases isPage
      refine ⟨texts.trans ?_, isOutcome⟩
      rw [List.filterMap_append, filterMap_offered?_of_silent silent, whole]
      rfl
    | @read found id total step tail stop' isPage reads stops' closes =>
      rw [isPage]
      rcases (Session.stopped_of_reads reads stops' follows pays).of_closes closes stops with
        ⟨stopped, isClosed⟩
      rw [List.append_assoc _ step.events] at stopped
      refine writesPages_of_stopped stopped isClosed ?_ isOutcome texts pages
      rw [List.any_append, List.any_append, opens.any_isSearch, Bool.or_true, Bool.true_or]

/-- Three rows on two pages, with a third page that has no hits. -/
theorem document_of_three_pages :
    let engine := Engine.giving
      (Page.answer "s1" [[("a", .number (.integer 1))], [("a", .number (.integer 2))]])
      [Page.answer "s2" [[("a", .null)]], Page.answer "s3" []]
    ∃ run, ({ index := "points" } : Query).execute engine .willing {} 3 "points" = some run ∧
      run.result = .ok (.completed 3) ∧
      ({ index := "points" } : Query).WritesPages engine {} run.events (.completed 3) := by
  intro engine
  refine ⟨_, rfl, rfl, ?_⟩
  rcases @document_of_execute { index := "points" } engine .willing {} "points" 3 _
    (.completed 3) rfl (by decide) rfl with ⟨body, finds, writes⟩
  cases finds
  exact writes

end Query

end SearchSql
