import SearchSql.Session.Run

/-!
# What the events of a run say

The events of a run are the calls that were made, in order. Together with the engine they determine
what came of the calls so far: the replies, the pages in them, the time that passed, and the
identifier of the cursor. Nothing here looks at the state of a session, so that the contracts of a
run can be stated by its events alone.

`Allowed` says of each event that it stands behind events which allow it. A history comes before the
list, because a run is put together from parts whose events depend on those of the parts before.
-/

namespace SearchSql

namespace Event

def isExplain : Event → Bool
  | .explain _ => true
  | _ => false

def isSearch : Event → Bool
  | .search .. => true
  | _ => false

def isScroll : Event → Bool
  | .scroll .. => true
  | _ => false

def isRefusal : Event → Bool
  | .refused _ => true
  | _ => false

/-- Whether no page and no delay comes of an event. -/
def isQuiet : Event → Bool
  | .explain _ => false
  | .search .. => false
  | .scroll .. => false
  | _ => true

@[simp]
theorem isQuiet_chunk (text : String) : (Event.chunk text).isQuiet = true := by
  simp only [isQuiet]

@[simp]
theorem isQuiet_refused (text : String) : (Event.refused text).isQuiet = true := by
  simp only [isQuiet]

theorem not_calls_of_isQuiet {event : Event} (quiet : event.isQuiet = true) :
    event.isExplain = false ∧ event.isSearch = false ∧ event.isScroll = false := by
  cases event <;> simp_all [isQuiet, isExplain, isSearch, isScroll]

theorem isEngineCall_of_isScroll {event : Event} (scroll : event.isScroll = true) :
    event.isEngineCall = true := by
  cases event <;> simp_all [isScroll, isEngineCall]

/-- A call to the engine gives the consumer nothing and ends nothing. -/
theorem silent_of_isEngineCall {event : Event} (call : event.isEngineCall = true) :
    event.isWrite = false ∧ event.isTerminal = false ∧ event.isRefusal = false := by
  cases event <;> simp_all [isEngineCall, isWrite, isRefusal, isTerminal]

theorem isTerminal_of_isScroll_or_isWrite {event : Event}
    (streaming : event.isScroll = true ∨ event.isWrite = true) : event.isTerminal = false := by
  cases event <;> simp_all [isScroll, isWrite, isTerminal]

/-- The end of a stream is no call to the engine and gives the consumer no chunk. -/
theorem quiet_of_isTerminal {event : Event} (terminal : event.isTerminal = true) :
    event.isQuiet = true ∧ event.isRefusal = false ∧ event.isEngineCall = false := by
  cases event <;> simp_all [isTerminal, isQuiet, isRefusal, isEngineCall]

/-- The text that was given to the consumer, whether it took it or not. -/
def offered? : Event → Option String
  | .chunk text => some text
  | .refused text => some text
  | _ => none

theorem offered?_of_not_isWrite {event : Event} (silent : event.isWrite = false) :
    event.offered? = none := by
  cases event <;> simp_all [isWrite, offered?]

end Event

/-- Events that are calls to the engine alone. -/
def OnlyCalls (events : List Event) : Prop := ∀ event ∈ events, event.isEngineCall = true

namespace OnlyCalls

variable {events : List Event}

theorem append {later : List Event} (calls : OnlyCalls events) (laterCalls : OnlyCalls later) :
    OnlyCalls (events ++ later) := by
  intro event member
  rcases List.mem_append.mp member with before | after
  · exact calls event before
  · exact laterCalls event after

theorem not_isWrite (calls : OnlyCalls events) : ∀ event ∈ events, event.isWrite = false :=
  fun event member => (Event.silent_of_isEngineCall (calls event member)).1

/-- Nothing in the calls ends what the consumer is given. -/
theorem open_of_mem (calls : OnlyCalls events) :
    ∀ event ∈ events, event.isTerminal = false ∧ event.isRefusal = false :=
  fun event member => (Event.silent_of_isEngineCall (calls event member)).2

end OnlyCalls

theorem filterMap_offered?_of_silent {events : List Event}
    (silent : ∀ event ∈ events, event.isWrite = false) :
    events.filterMap Event.offered? = [] :=
  List.filterMap_eq_nil_iff.mpr fun event member =>
    Event.offered?_of_not_isWrite (silent event member)

/-- The text of all chunks that were given to the consumer. -/
def offeredText (events : List Event) : String := String.join (events.filterMap Event.offered?)

@[simp]
theorem offeredText_append (first second : List Event) :
    offeredText (first ++ second) = offeredText first ++ offeredText second := by
  simp [offeredText, String.join_append]

@[simp]
theorem offeredText_chunk (text : String) : offeredText [.chunk text] = text := by
  simp [offeredText, Event.offered?]

theorem offeredText_of_silent {events : List Event}
    (silent : ∀ event ∈ events, event.isWrite = false) : offeredText events = "" := by
  rw [offeredText, filterMap_offered?_of_silent silent]
  rfl

/-- The page that a reply brings, unless it is a failure. -/
def Reply.page? (reply : Reply Json) : Option Page := reply.result.toOption.map Page.ofResponse

theorem Reply.page?_of_ok {reply : Reply Json} {body : Json} (brings : reply.result = .ok body) :
    reply.page? = some (Page.ofResponse body) := by
  simp [page?, brings, Except.toOption]

theorem Reply.page?_of_error {reply : Reply Json} {cause : BackendError}
    (fails : reply.result = .error cause) : reply.page? = none := by
  simp [page?, fails, Except.toOption]

/-- The identifier that the last page with one carries. -/
def cursorId (pages : List Page) : Option String := (pages.filterMap Page.scrollId).getLast?

@[simp]
theorem cursorId_append (pages : List Page) (page : Page) :
    cursorId (pages ++ [page]) = page.scrollId.or (cursorId pages) := by
  cases id : page.scrollId <;> simp [cursorId, id]

theorem scrollId_of_cursorId {pages : List Page} (noCursor : cursorId pages = none) {page : Page}
    (member : page ∈ pages) : page.scrollId = none := by
  rw [cursorId, List.getLast?_eq_none_iff, List.filterMap_eq_nil_iff] at noCursor
  exact noCursor page member

namespace Engine

variable (engine : Engine)

/-- The replies to the search and to the scroll calls among some events. -/
def cursorReplies (events : List Event) : List (Reply Json) :=
  (if events.any Event.isSearch then [engine.search] else []) ++
    (List.range (events.countP Event.isScroll)).map engine.scroll

/-- The pages that the engine gave, those without hits among them. -/
def fetchedPages (events : List Event) : List Page :=
  (engine.cursorReplies events).filterMap Reply.page?

/-- The milliseconds that the engine took for its replies, from the explanation on. -/
def elapsed (events : List Event) : Nat :=
  (engine.cursorReplies events).foldl (fun total reply => total + reply.delay)
    (if events.any Event.isExplain then engine.explain.delay else 0)

variable {engine} in
theorem mem_fetchedPages_of_isSearch {events : List Event} {page : Page}
    (asked : events.any Event.isSearch = true) (brings : engine.search.page? = some page) :
    page ∈ engine.fetchedPages events := by
  simp only [fetchedPages, cursorReplies, asked, if_true, List.mem_filterMap]
  exact ⟨engine.search, by simp, brings⟩

variable {engine} in
theorem cursorReplies_append_quiet {history later : List Event}
    (quiet : ∀ event ∈ later, event.isQuiet = true) :
    engine.cursorReplies (history ++ later) = engine.cursorReplies history := by
  have noSearch : later.any Event.isSearch = false := by
    simpa using fun event member => (Event.not_calls_of_isQuiet (quiet event member)).2.1
  have noScroll : later.countP Event.isScroll = 0 := by
    simpa using fun event member => (Event.not_calls_of_isQuiet (quiet event member)).2.2
  simp [cursorReplies, noSearch, noScroll]

variable {engine} in
theorem fetchedPages_append_quiet {history later : List Event}
    (quiet : ∀ event ∈ later, event.isQuiet = true) :
    engine.fetchedPages (history ++ later) = engine.fetchedPages history := by
  simp only [fetchedPages, cursorReplies_append_quiet quiet]

variable {engine} in
theorem elapsed_append_quiet {history later : List Event}
    (quiet : ∀ event ∈ later, event.isQuiet = true) :
    engine.elapsed (history ++ later) = engine.elapsed history := by
  have noExplain : later.any Event.isExplain = false := by
    simpa using fun event member => (Event.not_calls_of_isQuiet (quiet event member)).1
  simp [elapsed, noExplain, cursorReplies_append_quiet quiet]

@[simp]
theorem cursorReplies_append_single {history : List Event} {event : Event}
    (quiet : event.isQuiet = true) :
    engine.cursorReplies (history ++ [event]) = engine.cursorReplies history :=
  cursorReplies_append_quiet (by simpa using quiet)

@[simp]
theorem fetchedPages_append_single {history : List Event} {event : Event}
    (quiet : event.isQuiet = true) :
    engine.fetchedPages (history ++ [event]) = engine.fetchedPages history :=
  fetchedPages_append_quiet (by simpa using quiet)

@[simp]
theorem elapsed_append_single {history : List Event} {event : Event}
    (quiet : event.isQuiet = true) :
    engine.elapsed (history ++ [event]) = engine.elapsed history :=
  elapsed_append_quiet (by simpa using quiet)

@[simp]
theorem cursorReplies_append_scroll (history : List Event) (id keepAlive : String) :
    engine.cursorReplies (history ++ [.scroll id keepAlive]) =
      engine.cursorReplies history ++ [engine.scroll (history.countP Event.isScroll)] := by
  simp [cursorReplies, Event.isSearch, Event.isScroll, List.range_succ]

@[simp]
theorem fetchedPages_append_scroll (history : List Event) (id keepAlive : String) :
    engine.fetchedPages (history ++ [.scroll id keepAlive]) =
      engine.fetchedPages history ++
        (engine.scroll (history.countP Event.isScroll)).page?.toList := by
  cases page : (engine.scroll (history.countP Event.isScroll)).page? <;>
    simp [fetchedPages, page]

@[simp]
theorem elapsed_append_scroll (history : List Event) (id keepAlive : String) :
    engine.elapsed (history ++ [.scroll id keepAlive]) =
      engine.elapsed history + (engine.scroll (history.countP Event.isScroll)).delay := by
  simp [elapsed, Event.isExplain]

end Engine

/-- An engine that answers at once and never fails, with pages that come to an end. -/
def Engine.giving (first : Json) (later : List Json) : Engine where
  mapping := .ok []
  explain := { result := .ok .null }
  search := { result := .ok first }
  scroll := fun call => { result := .ok (later[call]?.getD .null) }

/-- The answer that a page of hits comes in, under the identifier of a cursor. -/
def Page.answer (scrollId : String) (sources : List Record) : Json :=
  .object [
    ("_scroll_id", .string scrollId),
    ("hits", .object [
      ("hits", .array (sources.map fun source => .object [("_source", .object source)]))])]

/-- Each event of a list is allowed by the events before it, with a history before them all. -/
def Allowed (allows : List Event → Event → Prop) : List Event → List Event → Prop
  | _, [] => True
  | history, event :: rest => allows history event ∧ Allowed allows (history ++ [event]) rest

namespace Allowed

variable {allows : List Event → Event → Prop}

@[simp]
theorem nil (history : List Event) : Allowed allows history [] := trivial

@[simp]
theorem cons_iff {history rest : List Event} {event : Event} :
    Allowed allows history (event :: rest) ↔
      allows history event ∧ Allowed allows (history ++ [event]) rest := Iff.rfl

@[simp]
theorem append_iff {history first second : List Event} :
    Allowed allows history (first ++ second) ↔
      Allowed allows history first ∧ Allowed allows (history ++ first) second := by
  induction first generalizing history with
  | nil => simp
  | cons event rest ih => simp [ih, and_assoc]

/-- What does not depend on the history can be asked of each event alone. -/
theorem of_forall {history events : List Event}
    (each : ∀ before, ∀ event ∈ events, allows before event) : Allowed allows history events := by
  induction events generalizing history with
  | nil => trivial
  | cons event rest ih =>
    refine ⟨each _ event List.mem_cons_self, ih ?_⟩
    intro before later member
    exact each before later (List.mem_cons_of_mem _ member)

theorem split {history before after : List Event} {event : Event}
    (allowed : Allowed allows history (before ++ event :: after)) :
    allows (history ++ before) event := by
  rw [append_iff, cons_iff] at allowed
  exact allowed.2.1

end Allowed

end SearchSql
