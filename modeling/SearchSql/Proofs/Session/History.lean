import SearchSql.Proofs.Output.Envelope
import SearchSql.Proofs.Session.Trace
import SearchSql.Proofs.Session.Turn

/-!
# How the progress of a session follows from its events

At the start of every turn the progress of a session is determined by the events so far and by the
pages that have been written: the engine calls are counted, the time is the sum of the delays, the
cursor goes by the latest identifier, every row of the written pages was returned, and the encoder
is closed if and only if a written page was followed by one without hits. `Follows.next` is the step
lemma, and every contract of a run is an induction on `Reads` with it.
-/

namespace SearchSql.Session

namespace Looks

variable {session : Session} {progress : Progress} {step : Step (Option Page)}

/-- Looking ahead is at most a scroll call. -/
theorem isScroll_of_mem (looks : session.Looks progress step) {event : Event}
    (member : event ∈ step.events) : event.isScroll = true := by
  cases looks with
  | full | cursorless => cases member
  | failed | fetched =>
    rw [List.mem_singleton.mp member]
    rfl

theorem onlyCalls (looks : session.Looks progress step) : OnlyCalls step.events :=
  fun _ member => Event.isEngineCall_of_isScroll (looks.isScroll_of_mem member)

theorem offeredText_events (looks : session.Looks progress step) :
    offeredText step.events = "" :=
  offeredText_of_silent looks.onlyCalls.not_isWrite

/-- Only engine calls are made on looking ahead, and only what comes of them is noted. -/
theorem progress_eq (looks : session.Looks progress step) :
    step.progress.encoder = progress.encoder ∧ step.progress.writes = progress.writes ∧
      step.progress.returned = progress.returned ∧ step.progress.live = progress.live := by
  cases looks <;> exact ⟨rfl, rfl, rfl, rfl⟩

end Looks

/--
The progress at the start of a turn and the page at hand follow from a history of events, in which
the earlier pages have been written. The page at hand is the last that was fetched, unless there was
no cursor to fetch one under.
-/
structure Follows (session : Session) (history : List Event) (earlier : List Page)
    (progress : Progress) (page : Page) : Prop where
  scrolls : progress.scrolls = history.countP Event.isScroll
  elapsed : progress.elapsed = session.engine.elapsed history
  cursor : progress.scrollId = cursorId (session.engine.fetchedPages history)
  live : progress.live = progress.scrollId.isSome
  pages : session.engine.fetchedPages history = earlier ++ [page] ∨
    session.engine.fetchedPages history = earlier ∧ earlier ≠ [] ∧ page = Page.last ∧
      progress.scrollId = none
  answered : ∀ reply ∈ session.engine.cursorReplies history, reply.page? ≠ none
  accepted : ∀ event ∈ history, event.isRefusal = false
  hits : ∀ page ∈ earlier, page.hitCount ≠ 0
  returned : progress.returned = (earlier.flatMap session.rowsOf).length
  room : earlier ≠ [] → session.limitReached progress.returned = false
  closed : progress.encoder.closed = (!earlier.isEmpty && page.hitCount == 0)

variable {session : Session} {history : List Event} {earlier : List Page} {progress : Progress}
  {page : Page}

theorem limitReached_eq_false_iff {returned : Nat} :
    session.limitReached returned = false ↔
      ∀ limit, session.limit = some limit → returned < limit := by
  cases limit : session.limit <;> simp [limitReached, limit]

theorem limit_of_limitReached {returned : Nat} (reached : session.limitReached returned = true)
    (below : ∀ limit, session.limit = some limit → returned ≤ limit) :
    session.limit = some returned := by
  cases isLimit : session.limit with
  | none => simp [limitReached, isLimit] at reached
  | some limit =>
    simp only [limitReached, isLimit, decide_eq_true_eq] at reached
    rw [Nat.le_antisymm reached (below limit isLimit)]

theorem returned_counted (progress : Progress) (page : Page) :
    (session.counted progress page).returned =
      progress.returned + (session.rowsDue progress page).length := rfl

/-- Below the limit, no row of the page was cut off. -/
theorem rowsDue_eq_rowsOf
    (room : session.limitReached (session.counted progress page).returned = false) :
    session.rowsDue progress page = session.rowsOf page := by
  cases limit : session.limit with
  | none => simp [rowsDue, rowsWithin, limit]
  | some limit' =>
    have due : session.rowsDue progress page =
        (session.rowsOf page).take (limit' - progress.returned) := by
      simp [rowsDue, rowsWithin, limit]
    have below := limitReached_eq_false_iff.mp room limit' limit
    rw [returned_counted, due, List.length_take] at below
    rw [due]
    apply List.take_of_length_le
    omega

theorem rowsDue_prefix (session : Session) (progress : Progress) (page : Page) :
    session.rowsDue progress page <+: session.rowsOf page := by
  unfold rowsDue rowsWithin
  split
  · exact List.take_prefix _ _
  · exact List.prefix_rfl

/-- What is due never goes beyond the limit. -/
theorem returned_counted_le {limit : Nat} (isLimit : session.limit = some limit)
    (below : progress.returned ≤ limit) : (session.counted progress page).returned ≤ limit := by
  have due : session.rowsDue progress page =
      (session.rowsOf page).take (limit - progress.returned) := by
    simp [rowsDue, rowsWithin, isLimit]
  rw [returned_counted, due, List.length_take]
  omega

@[simp]
theorem hasMore_some (page : Page) : hasMore (some page) = !(page.hitCount == 0) := by
  cases count : page.hitCount <;> simp [hasMore, count]

namespace Follows

theorem fetched_of_hits (follows : session.Follows history earlier progress page)
    (hits : page.hitCount ≠ 0) : session.engine.fetchedPages history = earlier ++ [page] := by
  rcases follows.pages with fetched | ⟨_, _, rfl, _⟩
  · exact fetched
  · exact absurd rfl hits

theorem open_of_due (follows : session.Follows history earlier progress page)
    (due : session.Due progress page) : progress.encoder.closed = false := by
  rw [follows.closed]
  simp [due.hits]

/-- A turn that writes its page and goes on keeps progress and events together. -/
theorem next {following : Page} {chunk : String} {encoder : Encoder}
    (follows : session.Follows history earlier progress page) (due : session.Due progress page)
    (looked : (session.ahead progress page).result = .ok (some following))
    (encodes : (session.ahead progress page).progress.encoder.encode
      (session.rowsDue progress page) (hasMore (some following)) = .ok (chunk, encoder)) :
    session.Follows (history ++ ((session.ahead progress page).events ++ [.chunk chunk]))
      (earlier ++ [page]) (wrote (session.ahead progress page).progress encoder) following := by
  have fetched := follows.fetched_of_hits due.hits
  have written : ∀ page' ∈ earlier ++ [page], page'.hitCount ≠ 0 := by
    simpa [or_imp, forall_and] using And.intro follows.hits due.hits
  have isClosed : encoder.closed = (!(earlier ++ [page]).isEmpty && following.hitCount == 0) := by
    rw [(Encoder.closed_of_encode encodes).2]
    simp
  -- there is a following page only below the limit, and there no row was cut off
  have counts : session.limitReached (session.counted progress page).returned = false →
      (session.counted progress page).returned =
        ((earlier ++ [page]).flatMap session.rowsOf).length := by
    intro room
    simp [counted, rowsDue_eq_rowsOf room, follows.returned]
  have looks := session.looks_ahead progress page
  generalize session.ahead progress page = ahead at looked encodes looks ⊢
  cases looks with
  | full reached => cases looked
  | failed room cursor fails => cases looked
  | cursorless room noCursor =>
    cases looked
    rw [List.nil_append]
    constructor
    · simpa [wrote, counted, Event.isScroll] using follows.scrolls
    · simpa [wrote, counted] using follows.elapsed
    · simpa [wrote, counted] using follows.cursor
    · exact follows.live
    · rw [Engine.fetchedPages_append_single _ rfl]
      exact Or.inr ⟨fetched, by simp, rfl, noCursor⟩
    · simpa using follows.answered
    · simpa [or_imp, forall_and, Event.isRefusal] using follows.accepted
    · exact written
    · exact counts room
    · exact fun _ => room
    · exact isClosed
  | @fetched id body room cursor brings =>
    cases looked
    have held : progress.scrollId = some id := cursor
    have brought : (session.engine.scroll (history.countP Event.isScroll)).page? =
        some (Page.ofResponse body) := by
      rw [← follows.scrolls]
      exact Reply.page?_of_ok brings
    rw [← List.append_assoc]
    constructor
    · simp [wrote, scrolled, counted, follows.scrolls, List.countP_cons, Event.isScroll]
    · rw [Engine.elapsed_append_single _ (Event.isQuiet_chunk chunk)]
      simp [wrote, scrolled, counted, follows.elapsed, follows.scrolls]
    · rw [Engine.fetchedPages_append_single _ (Event.isQuiet_chunk chunk)]
      simp [wrote, scrolled, counted, brought, follows.cursor]
    · simp [wrote, scrolled, counted, follows.live, held]
    · rw [Engine.fetchedPages_append_single _ (Event.isQuiet_chunk chunk)]
      simp [brought, fetched]
    · rw [Engine.cursorReplies_append_single _ (Event.isQuiet_chunk chunk)]
      simpa [or_imp, forall_and, brought] using follows.answered
    · simpa [or_imp, forall_and, Event.isRefusal] using follows.accepted
    · exact written
    · exact counts room
    · exact fun _ => room
    · exact isClosed

end Follows

end SearchSql.Session
