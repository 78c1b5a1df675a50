import SearchSql.Proofs.Output.Columns
import SearchSql.Proofs.Query.Columns
import SearchSql.Proofs.Session.Document

/-!
# Pages and the CSV document

Where an engine cuts a result into pages cannot be seen in a CSV document whose columns the select
list gives. From an engine that answers at once and never fails, a run writes the rows of all hits
up to the limit under one header, whatever the pages are, so that two engines with the same hits
give the same document and the same result.

The step lemma is `Session.Upcoming.writesPage`: a turn encodes the rows of the page at hand and
leaves the later pages upcoming, unless the limit is reached. `Session.Upcoming.writesRows` follows
by induction on the pages. What was written and what is still to come are one text, since rows under
known columns are encoded alike in one batch or in several, and the limit can be applied to one page
after the other (`Session.within_append`).
-/

namespace SearchSql

/-- The reply brings a page of hits at once, and an identifier to ask for the next page under. -/
structure Reply.Brings (reply : Reply Json) (hits : List Json) : Prop where
  atOnce : reply.delay = 0
  page : ∃ body id total, reply.result = .ok body ∧
    Page.ofResponse body = .hits hits (some id) total

/-- The reply that brings a page of a result, counted from zero. -/
def Engine.pageReply (engine : Engine) : Nat → Reply Json
  | 0 => engine.search
  | call + 1 => engine.scroll call

/-- The engine gives some hits page by page, all at once, and an empty page in the end. -/
structure Engine.Gives (engine : Engine) (pages : List (List Json)) : Prop where
  explains : ∃ native, engine.explain = { result := .ok native }
  someHits : ∀ hits ∈ pages, hits ≠ []
  brings : ∀ index ≤ pages.length, (engine.pageReply index).Brings (pages.getD index [])

/-- The query can be prepared for the engine and then be written as SQL text. -/
def Query.WritableFor (query : Query) (engine : Engine) : Prop :=
  ∃ mapping sql, query.mappingFrom engine = .ok mapping ∧ (query.prepare mapping).toSql = .ok sql

/-- The rows up to a limit. -/
def rowsUpTo (limit : Option Nat) (rows : List Record) : List Record :=
  match limit with
  | some limit => rows.take limit
  | none => rows

namespace Session

variable (session : Session)

/-- The rows up to the limit, of which some have been returned before. -/
def within (returned : Nat) (rows : List Record) : List Record :=
  rowsUpTo (session.limit.map (· - returned)) rows

def hitRows (hits : List Json) : List Record := session.rowsOf (.hits hits none none)

/-- The pages that are still to come, from the one at hand on. -/
structure Upcoming (progress : Progress) (page : Page) (pages : List (List Json)) : Prop where
  csv : progress.encoder.format = .csv
  named : progress.encoder.columns ≠ []
  isOpen : pages ≠ [] → progress.encoder.closed = false
  cursor : progress.scrollId ≠ none
  atOnce : progress.elapsed = 0
  isPage : ∃ id total, page = .hits (pages.getD 0 []) id total
  someHits : ∀ hits ∈ pages, hits ≠ []
  brings : ∀ index < pages.length,
    (session.engine.scroll (progress.scrolls + index)).Brings (pages.getD (index + 1) [])

/-- What a turn does that writes the page at hand. -/
structure WritesPage (progress : Progress) (page : Page) (later : List (List Json))
    (taken : Step Turn) : Prop where
  encodes : ∃ more, progress.encoder.encode (session.rowsDue progress page) more =
    .ok (offeredText taken.events, taken.progress.encoder)
  returned : taken.progress.returned =
    progress.returned + (session.rowsDue progress page).length
  goesOn : taken.result = .ok (.stop .limitReached) ∧
      session.limitReached taken.progress.returned = true ∨
    ∃ following, taken.result = .ok (.next following) ∧
      session.Upcoming taken.progress following later

/-- What was done when pages have been read to their end, or to the limit. -/
structure WritesRows (progress : Progress) (rows : List Record) (step : Step Stop) (stop : Stop) :
    Prop where
  stops : step.result = .ok stop
  inTime : stop ≠ .timedOut
  csv : step.progress.encoder.format = .csv
  returned : step.progress.returned = progress.returned + rows.length
  text : offeredText step.events = progress.encoder.csvText rows

variable {session} {progress : Progress} {page : Page} {pages : List (List Json)}

theorem rowsDue_eq_within (progress : Progress) (page : Page) :
    session.rowsDue progress page = session.within progress.returned (session.rowsOf page) := by
  cases limit : session.limit <;> simp [rowsDue, rowsWithin, within, rowsUpTo, limit]

/-- The limit may be applied to one part of the rows after the other. -/
theorem within_append (returned : Nat) (rows later : List Record) :
    session.within returned (rows ++ later) = session.within returned rows ++
      session.within (returned + (session.within returned rows).length) later := by
  cases limit : session.limit with
  | none => simp [within, rowsUpTo, limit]
  | some limit' =>
    have left : limit' - (returned + min (limit' - returned) rows.length) =
        limit' - returned - rows.length := by
      omega
    simp [within, rowsUpTo, limit, List.take_append, left]

theorem within_nil (returned : Nat) : session.within returned [] = [] := by
  cases limit : session.limit <;> simp [within, rowsUpTo, limit]

theorem within_of_limitReached {returned : Nat} (reached : session.limitReached returned = true)
    (rows : List Record) : session.within returned rows = [] := by
  cases limit : session.limit with
  | none => simp [limitReached, limit] at reached
  | some limit' =>
    simp only [limitReached, limit, decide_eq_true_eq] at reached
    simp [within, rowsUpTo, limit, Nat.sub_eq_zero_of_le reached]

theorem hitRows_nil : session.hitRows [] = [] := by
  simp only [hitRows, rowsOf, Page.rows, Hit.rows, List.filterMap_nil, List.map_nil]
  split <;> rfl

theorem hitRows_append (hits later : List Json) :
    session.hitRows (hits ++ later) = session.hitRows hits ++ session.hitRows later := by
  simp only [hitRows, rowsOf, Page.rows, Hit.rows, List.filterMap_append, List.map_append]
  split <;> simp

/-- A turn over a page that is due writes it, once the next page has been looked for. -/
theorem turn_of_looked (willing : session.consumer = .willing) (due : session.Due progress page)
    (isOpen : progress.encoder.closed = false) {next : Option Page}
    (looked : (session.ahead progress page).result = .ok next) :
    ∃ encoder,
      progress.encoder.encode (session.rowsDue progress page) (hasMore next) =
        .ok (offeredText (session.turn progress page).events, encoder) ∧
      (session.turn progress page).progress = wrote (session.ahead progress page).progress encoder ∧
      (session.turn progress page).result =
        .ok ((next.map Turn.next).getD (.stop .limitReached)) := by
  have looks := session.looks_ahead progress page
  rcases Encoder.exists_encode isOpen (session.rowsDue progress page) (hasMore next) with
    ⟨chunk, encoder, encodes⟩
  have stillEncodes : (session.ahead progress page).progress.encoder.encode
      (session.rowsDue progress page) (hasMore next) = .ok (chunk, encoder) := by
    rw [looks.progress_eq.1]
    exact encodes
  have taken : session.turn progress page =
      ⟨(session.ahead progress page).events ++ [.chunk chunk],
        wrote (session.ahead progress page).progress encoder,
        .ok ((next.map Turn.next).getD (.stop .limitReached))⟩ := by
    rw [turn_of_due due, turnOver_of_looked looked]
    simp only [writeRows, stillEncodes, write, willing, Consumer.willing, Except.map, wrote]
  rw [taken]
  refine ⟨encoder, ?_, rfl, rfl⟩
  rw [offeredText_append, looks.offeredText_events, offeredText_chunk, String.empty_append]
  exact encodes

namespace Upcoming

variable {hits : List Json}

theorem writesPage (willing : session.consumer = .willing)
    (upcoming : session.Upcoming progress page (hits :: pages))
    (room : session.limitReached progress.returned = false) :
    session.WritesPage progress page pages (session.turn progress page) := by
  have due : session.Due progress page := by
    rcases upcoming.isPage with ⟨id, total, isHits⟩
    have someHits := upcoming.someHits hits List.mem_cons_self
    refine ⟨by simp [upcoming.atOnce], ?_, room⟩
    simpa [isHits, Page.hitCount] using someHits
  have isOpen := upcoming.isOpen (List.cons_ne_nil _ _)
  have looks := session.looks_ahead progress page
  have step := @turn_of_looked session progress page willing due isOpen
  generalize session.turn progress page = taken at step ⊢
  generalize session.ahead progress page = ahead at looks step
  cases looks with
  | full reached =>
    rcases step rfl with ⟨encoder, encodes, isNext, stops⟩
    exact ⟨⟨_, by rw [isNext]; exact encodes⟩, by rw [isNext]; rfl,
      .inl ⟨stops, by rw [isNext]; exact reached⟩⟩
  | cursorless below noCursor => exact absurd noCursor upcoming.cursor
  | failed below cursor fails =>
    rcases (upcoming.brings 0 (Nat.succ_pos _)).page with ⟨body, id', total', isBody, -⟩
    rw [Nat.add_zero] at isBody
    cases isBody.symm.trans fails
  | @fetched id body below cursor brings =>
    have reply := upcoming.brings 0 (Nat.succ_pos _)
    rcases reply.page with ⟨body', nextId, total, isBody, isPage⟩
    rw [Nat.add_zero] at reply isBody
    cases isBody.symm.trans brings
    rcases step rfl with ⟨encoder, encodes, isNext, goesOn⟩
    refine ⟨⟨_, by rw [isNext]; exact encodes⟩, by rw [isNext]; rfl, .inr ⟨_, goesOn, ?_⟩⟩
    have kept := (Encoder.encode_csv upcoming.csv encodes).2
    rw [Encoder.columnsWith_of_named upcoming.named] at kept
    rw [isNext]
    constructor
    · simpa [wrote, kept] using upcoming.csv
    · simpa [wrote, kept] using upcoming.named
    · intro somePages
      have someHits : pages.getD 0 [] ≠ [] := by
        cases pages with
        | nil => exact absurd rfl somePages
        | cons next later => exact upcoming.someHits next (by simp)
      simpa [wrote, kept, isPage, Page.hitCount] using someHits
    · simp [wrote, isPage, Page.scrollId]
    · simp [wrote, scrolled, counted, upcoming.atOnce, reply.atOnce]
    · exact ⟨_, _, isPage⟩
    · exact fun hits isHits => upcoming.someHits hits (List.mem_cons_of_mem _ isHits)
    · intro index inPages
      have later := upcoming.brings (index + 1) (Nat.succ_lt_succ inPages)
      simpa [wrote, scrolled, counted, Nat.add_assoc, Nat.add_comm 1] using later

/-- A turn that does not write leaves nothing unwritten. -/
theorem stops (upcoming : session.Upcoming progress page pages)
    (finished : pages = [] ∨ session.limitReached progress.returned = true) :
    ∃ stop, stop ≠ .timedOut ∧ (session.turn progress page).events = [] ∧
      (session.turn progress page).progress.returned = progress.returned ∧
      (session.turn progress page).progress.encoder = progress.encoder ∧
      (session.turn progress page).result = .ok (.stop stop) ∧
      session.within progress.returned (session.hitRows pages.flatten) = [] := by
  rcases upcoming.isPage with ⟨id, total, isHits⟩
  have inTime : ¬ session.options.timeout < progress.elapsed := by
    simp [upcoming.atOnce]
  cases pages with
  | nil =>
    have noHits : page.hitCount = 0 := by
      rw [isHits]
      rfl
    refine ⟨.exhausted, by decide, ?_⟩
    simp [turn, inTime, noHits, hitRows_nil, within_nil]
  | cons hits later =>
    have reached := finished.resolve_left (List.cons_ne_nil _ _)
    have someHits : page.hitCount ≠ 0 := by
      have someHits := upcoming.someHits hits List.mem_cons_self
      simpa [isHits, Page.hitCount] using someHits
    refine ⟨.limitReached, by decide, ?_⟩
    simp [turn, inTime, someHits, reached, within_of_limitReached]

theorem writesRows_of_stops (upcoming : session.Upcoming progress page pages)
    (finished : pages = [] ∨ session.limitReached progress.returned = true) (turns : Nat) :
    ∃ step stop, session.loop (turns + 1) progress page = some step ∧
      WritesRows progress (session.within progress.returned (session.hitRows pages.flatten))
        step stop := by
  rcases upcoming.stops finished with ⟨stop, inTime, noEvents, returned, encoder, stops, noRows⟩
  refine ⟨_, stop, by rw [loop, stops], rfl, inTime, ?_, ?_, ?_⟩
  · rw [encoder]
    exact upcoming.csv
  · rw [noRows]
    exact returned
  · rw [noRows, noEvents]
    simp [Encoder.csvText, offeredText]

/-- Pages that are upcoming are written to their end, or to the limit. -/
theorem writesRows (willing : session.consumer = .willing)
    (upcoming : session.Upcoming progress page pages) {turns : Nat}
    (enough : pages.length < turns) :
    ∃ step stop, session.loop turns progress page = some step ∧
      WritesRows progress (session.within progress.returned (session.hitRows pages.flatten))
        step stop := by
  induction pages generalizing progress page turns with
  | nil =>
    rcases Nat.exists_eq_add_of_lt enough with ⟨more, rfl⟩
    exact upcoming.writesRows_of_stops (.inl rfl) _
  | cons hits later ih =>
    rcases Nat.exists_eq_succ_of_ne_zero (Nat.ne_zero_of_lt enough) with ⟨turns, rfl⟩
    cases room : session.limitReached progress.returned with
    | true => exact upcoming.writesRows_of_stops (.inr room) turns
    | false =>
      have settled := Encoder.columnsWith_of_named upcoming.named (session.rowsDue progress page)
      rcases upcoming.writesPage willing room with ⟨⟨more, encodes⟩, returned, goesOn⟩
      have text := Encoder.append_csvText_of_encode upcoming.csv encodes settled
      have stillCsv : (session.turn progress page).progress.encoder.format = .csv := by
        rw [(Encoder.encode_csv upcoming.csv encodes).2]
        exact upcoming.csv
      have due : session.rowsDue progress page =
          session.within progress.returned (session.hitRows hits) := by
        rcases upcoming.isPage with ⟨id, total, rfl⟩
        exact rowsDue_eq_within progress _
      rw [List.flatten_cons, hitRows_append, within_append, ← due, ← returned]
      rcases goesOn with ⟨stops, reached⟩ | ⟨following, continues, nextUpcoming⟩
      · refine ⟨_, .limitReached, by rw [loop, stops], rfl, by decide, stillCsv, ?_, ?_⟩
        · rw [within_of_limitReached reached, List.append_nil, returned]
        · rw [within_of_limitReached reached, ← text]
          simp [Encoder.csvText]
      · rcases ih nextUpcoming (Nat.lt_of_succ_lt_succ enough) with ⟨step, stop, looped, writes⟩
        have all : session.loop (turns + 1) progress page =
            some { step with events := (session.turn progress page).events ++ step.events } := by
          rw [loop, continues]
          simp only [looped, Option.map_some]
        refine ⟨_, stop, all, writes.stops, writes.inTime, writes.csv, ?_, ?_⟩
        · rw [List.length_append, ← Nat.add_assoc, ← returned]
          exact writes.returned
        · rw [offeredText_append, ← text]
          exact congrArg _ writes.text

end Upcoming

/-- What closes a CSV document adds nothing to it. -/
theorem Closes.silent_of_csv {stop : Stop} {tail : Step Stop}
    (willing : session.consumer = .willing)
    (csv : progress.encoder.format = .csv) (closes : session.Closes stop progress tail) :
    tail.result = .ok stop ∧ tail.progress.returned = progress.returned ∧
      offeredText tail.events = "" := by
  cases closes with
  | already isClosed => exact ⟨rfl, rfl, rfl⟩
  | refused encodes refuses =>
    rw [willing] at refuses
    cases refuses
  | @tail chunk encoder encodes takes =>
    refine ⟨rfl, rfl, ?_⟩
    rw [offeredText_chunk, (Encoder.encode_csv csv encodes).1]
    rfl

/-- A run gives its consumer the rows of all pages under one header. -/
theorem exists_drive {opened : Opened} (willing : session.consumer = .willing)
    (upcoming : session.Upcoming opened.progress opened.page pages) {turns : Nat}
    (enough : pages.length < turns) :
    ∃ run, session.drive turns opened = some run ∧
      let rows := session.within opened.progress.returned (session.hitRows pages.flatten)
      run.result = .ok (.completed (opened.progress.returned + rows.length)) ∧
      offeredText run.events = opened.progress.encoder.csvText rows := by
  rcases upcoming.writesRows willing enough with ⟨step, stop, looped, writes⟩
  rcases exists_closes_of_ok session writes.stops with ⟨tail, closes, tailed⟩
  rcases closes.silent_of_csv willing writes.csv with ⟨result, returned, text⟩
  have streamed : session.stream turns opened =
      some ⟨step.events ++ tail.events, tail.progress, tail.result⟩ := by
    rcases upcoming.isPage with ⟨id, total, isHits⟩
    unfold stream
    split
    next isTree => cases isTree.symm.trans isHits
    next => rw [looped, Option.map_some, tailed]
  have ended : (session.conclude ⟨step.events ++ tail.events, tail.progress, tail.result⟩).result =
      .ok (.completed step.progress.returned) := by
    simp only [conclude, result, willing, Consumer.willing, ← returned]
    cases stop with
    | timedOut => exact absurd rfl writes.inTime
    | _ => rfl
  refine ⟨_, by rw [drive, streamed]; rfl, ?_, ?_⟩
  · rw [ended, writes.returned]
  · rcases Query.after_stream [] ended with ⟨-, -, -, texts, -⟩
    rw [offeredText, ← List.nil_append (Run.events _), texts, List.nil_append, ← offeredText,
      offeredText_append, text, writes.text, String.append_empty]

/-- A cursor that was just opened has all pages before it. -/
theorem upcoming_openedWith {columns : List String} (csv : session.options.format = .csv)
    (isColumns : outputColumns session.select = some columns) (named : columns ≠ [])
    (gives : session.engine.Gives pages) {body : Json}
    (finds : session.engine.search.result = .ok body) :
    let opened := session.openedWith body
      (session.engine.explain.delay + session.engine.search.delay)
    session.Upcoming opened.progress opened.page pages ∧
      ∀ rows, opened.progress.encoder.csvText rows = Csv.document columns rows := by
  intro opened
  rcases gives.explains with ⟨native, explains⟩
  have first := gives.brings 0 (Nat.zero_le _)
  rcases first.page with ⟨body', id, total, isBody, isPage⟩
  cases isBody.symm.trans finds
  have isEncoder : opened.progress.encoder =
      { format := .csv
        download := session.options.download
        metadata := session.options.metadata
        columns } := by
    simp [opened, openedWith, csv, isPage, presetColumns, isColumns]
  refine ⟨?_, ?_⟩
  · constructor
    · rw [isEncoder]
    · rw [isEncoder]
      exact named
    · exact fun _ => rfl
    · simp [opened, openedWith, isPage, Page.scrollId]
    · have explained : session.engine.explain.delay = 0 := by rw [explains]
      have found : session.engine.search.delay = 0 := first.atOnce
      simp [opened, openedWith, explained, found]
    · exact ⟨_, _, isPage⟩
    · exact gives.someHits
    · intro index inPages
      have later := gives.brings (index + 1) inPages
      have call : opened.progress.scrolls + index = index := Nat.zero_add index
      rw [call]
      exact later
  · intro rows
    rw [isEncoder, Encoder.csvText_fresh]

theorem exists_run {columns : List String} (willing : session.consumer = .willing)
    (csv : session.options.format = .csv)
    (isColumns : outputColumns session.select = some columns) (named : columns ≠ [])
    (gives : session.engine.Gives pages) {prepared : Query} {sql : String}
    (writes : prepared.toSql = .ok sql) {turns : Nat} (enough : pages.length < turns)
    (index : String) :
    ∃ run, session.run turns index prepared = some run ∧
      let rows := session.within 0 (session.hitRows pages.flatten)
      run.result = .ok (.completed rows.length) ∧
      offeredText run.events = Csv.document columns rows := by
  rcases gives.explains with ⟨native, explains⟩
  rcases (gives.brings 0 (Nat.zero_le _)).page with ⟨body, id, total, finds, -⟩
  have opens := session.opens_openCursor index prepared
  unfold run
  generalize session.openCursor index prepared = opening at opens ⊢
  have calls : OnlyCalls opening.1 := opens.onlyCalls
  cases opens with
  | unwritten fails => cases writes.symm.trans fails
  | unexplained written fails =>
    rw [explains] at fails
    cases fails
  | unfound written explained fails => cases finds.symm.trans fails
  | @found sql' native' body' written explained found =>
    rcases upcoming_openedWith csv isColumns named gives found with ⟨upcoming, document⟩
    rcases exists_drive willing upcoming enough with ⟨run, drives, result, text⟩
    have returned : (session.openedWith body'
        (session.engine.explain.delay + session.engine.search.delay)).progress.returned = 0 := rfl
    rw [returned] at result text
    rw [Nat.zero_add] at result
    refine ⟨_, congrArg (Option.map _) drives, ?_, ?_⟩
    · exact result
    · rw [Run.after, offeredText_append, offeredText_of_silent calls.not_isWrite,
        String.empty_append, text, document]

end Session

namespace Query

/-- The rows of a result that has some hits, up to the limit of the query. -/
def hitRows (query : Query) (hits : List Json) : List Record :=
  rowsUpTo query.effectiveLimit ((Page.hits hits none none).rows query.select)

variable {query : Query} {engine : Engine} {pages : List (List Json)} {options : Options}
  {columns : List String}

/-- A run gives the document of the engine's hits, however they are cut into pages. -/
theorem exists_execute (keeps : query.delete = false) (csv : options.format = .csv)
    (noWildcard : ∀ item ∈ query.select, item.selection ≠ .wildcard)
    (isColumns : outputColumns query.select = some columns) (writable : query.WritableFor engine)
    (gives : engine.Gives pages) {turns : Nat} (enough : pages.length < turns) (index : String) :
    ∃ run, query.execute engine .willing options turns index = some run ∧
      run.result = .ok (.completed (query.hitRows pages.flatten).length) ∧
      offeredText run.events = Csv.document columns (query.hitRows pages.flatten) := by
  rcases writable with ⟨mapping, sql, maps, writes⟩
  have named := columns_ne_nil_of_toSql keeps noWildcard writes isColumns
  let session := query.session engine .willing options mapping
  have rows : session.within 0 (session.hitRows pages.flatten) =
      query.hitRows pages.flatten := by
    have limit : session.limit = query.effectiveLimit := limit_prepare query mapping
    have format : session.options.format = .csv := csv
    simp only [Session.within, limit, hitRows, Session.hitRows, Session.rowsOf, format]
    cases query.effectiveLimit <;> rfl
  rcases @Session.exists_run session pages columns rfl csv isColumns named gives _ sql writes turns
    enough index with ⟨run, ran, result, text⟩
  rw [rows] at result text
  refine ⟨run.after (query.lookUps index), ?_, result, ?_⟩
  · rw [execute_eq, maps]
    exact congrArg (Option.map _) ran
  · have silent := (query.onlyCalls_lookUps index).not_isWrite
    rw [Run.after, offeredText_append, offeredText_of_silent silent, String.empty_append, text]

/--
Two engines with the same hits give the same document and the same result: the rows of all hits up
to the limit, under the columns of the select list.
-/
theorem same_document_of_same_hits (keeps : query.delete = false) (nonempty : query.select ≠ [])
    (noWildcard : ∀ item ∈ query.select, item.selection ≠ .wildcard) (csv : options.format = .csv)
    {engine' : Engine} (writable : query.WritableFor engine) (writable' : query.WritableFor engine')
    {pages' : List (List Json)} (gives : engine.Gives pages) (gives' : engine'.Gives pages')
    (sameHits : pages.flatten = pages'.flatten) {turns : Nat} (enough : pages.length < turns)
    (enough' : pages'.length < turns) (index : String) :
    ∃ columns run run', outputColumns query.select = some columns ∧
      query.execute engine .willing options turns index = some run ∧
      query.execute engine' .willing options turns index = some run' ∧
      offeredText run.events = offeredText run'.events ∧ run.result = run'.result ∧
      offeredText run.events = Csv.document columns (query.hitRows pages.flatten) ∧
      run.result = .ok (.completed (query.hitRows pages.flatten).length) := by
  rcases exists_outputColumns nonempty noWildcard with ⟨columns, isColumns⟩
  rcases exists_execute keeps csv noWildcard isColumns writable gives enough index with
    ⟨run, ran, result, text⟩
  rcases exists_execute keeps csv noWildcard isColumns writable' gives' enough' index with
    ⟨run', ran', result', text'⟩
  rw [← sameHits] at result' text'
  exact ⟨columns, run, run', isColumns, ran, ran', text.trans text'.symm, result.trans result'.symm,
    text, result⟩

/-- A field that no first page has, a row without members, and a limit in the middle of a page. -/
theorem same_document_of_sparse_hits :
    let query : Query :=
      { index := "points"
        limit := some 3
        select := [⟨.field "a", none⟩, ⟨.field "b", none⟩, ⟨.dot, none⟩, ⟨.field "c", some "x"⟩] }
    let sources : List Record :=
      [[("a", .number (.integer 1))], [], [("b", .object [("c", .string "late")])], [("a", .null)]]
    let engine := Engine.giving (Page.answer "s1" (sources.take 2))
      [Page.answer "s2" (sources.drop 2), Page.answer "s3" []]
    let engine' := Engine.giving (Page.answer "t1" (sources.take 1))
      [Page.answer "t2" ((sources.drop 1).take 1), Page.answer "t3" (sources.drop 2),
        Page.answer "t4" []]
    ∃ run run', query.execute engine .willing { format := .csv } 4 "points" = some run ∧
      query.execute engine' .willing { format := .csv } 4 "points" = some run' ∧
      offeredText run.events = "a,x\n1,\n,\n,late\n" ∧ run.result = .ok (.completed 3) ∧
      offeredText run'.events = offeredText run.events ∧ run'.result = run.result := by
  intro query sources engine engine'
  let hits := sources.map fun source => Json.object [("_source", .object source)]
  have gives : engine.Gives [hits.take 2, hits.drop 2] := by
    refine ⟨⟨.null, rfl⟩, by simp [hits, sources], ?_⟩
    intro index inPages
    match index, inPages with
    | 0, _ | 1, _ | 2, _ => exact ⟨rfl, _, _, _, rfl, rfl⟩
  have gives' : engine'.Gives [hits.take 1, (hits.drop 1).take 1, hits.drop 2] := by
    refine ⟨⟨.null, rfl⟩, by simp [hits, sources], ?_⟩
    intro index inPages
    match index, inPages with
    | 0, _ | 1, _ | 2, _ | 3, _ => exact ⟨rfl, _, _, _, rfl, rfl⟩
  have named : Text.isAllBlank "points" = false := by decide +kernel
  have writes : ∃ sql, (query.prepare []).toSql = .ok sql := by
    simp [query, toSql, prepare, needsMapping, withGroupLimit, named, projectionSql,
      SelectUnit.ofItems, projectionTerms, Except.map]
  rcases writes with ⟨sql, writes⟩
  have count : (query.hitRows [hits.take 2, hits.drop 2].flatten).length = 3 := by rfl
  rcases @same_document_of_same_hits query engine _ { format := .csv } rfl (by simp [query])
    (by simp [query]) rfl engine' ⟨[], _, rfl, writes⟩ ⟨[], _, rfl, writes⟩ _ gives gives' rfl 4
    (by simp) (by simp) "points" with
    ⟨columns, run, run', isColumns, ran, ran', texts, results, text, result⟩
  cases isColumns
  rw [count] at result
  refine ⟨run, run', ran, ran', text.trans ?_, result, texts.symm, results.symm⟩
  decide +kernel

end Query

end SearchSql
