import SearchSql.Session.Run

/-!
# The ways in which pages are read

`Session.Looks` lists the ways in which a session looks ahead, `Session.Turns` the ways in which it
takes a turn, and `Session.Reads` the ways in which it reads pages from some progress on: a turn
stops for one of three reasons, fails in one of three ways, writes the last page, or writes a page
and goes on. Whatever holds of all readings is proved by induction on `Reads`; the functions
themselves are opened here only.
-/

namespace SearchSql.Session

variable (session : Session)

/-- The progress after a scroll call. -/
def scrolled (progress : Progress) : Progress :=
  { progress with
    scrolls := progress.scrolls + 1
    elapsed := progress.elapsed + (session.engine.scroll progress.scrolls).delay }

/-- The ways of looking ahead, each with what was done and what came of it. -/
inductive Looks (progress : Progress) : Step (Option Page) → Prop
  /-- The limit is reached. -/
  | full (reached : session.limitReached progress.returned = true) :
      Looks progress ⟨[], progress, .ok none⟩
  /-- There is no cursor to ask under. -/
  | cursorless (room : session.limitReached progress.returned = false)
      (noCursor : progress.scrollId = none) :
      Looks progress ⟨[], progress, .ok (some Page.last)⟩
  | failed {id : String} {cause : BackendError}
      (room : session.limitReached progress.returned = false)
      (cursor : progress.scrollId = some id)
      (fails : (session.engine.scroll progress.scrolls).result = .error cause) :
      Looks progress
        ⟨[.scroll id session.options.keepAlive], session.scrolled progress,
          .error (.backend cause)⟩
  | fetched {id : String} {body : Json}
      (room : session.limitReached progress.returned = false)
      (cursor : progress.scrollId = some id)
      (brings : (session.engine.scroll progress.scrolls).result = .ok body) :
      Looks progress
        ⟨[.scroll id session.options.keepAlive],
          { session.scrolled progress with
            scrollId := (Page.ofResponse body).scrollId.or progress.scrollId },
          .ok (some (Page.ofResponse body))⟩

theorem looks_lookAhead (progress : Progress) :
    session.Looks progress (session.lookAhead progress) := by
  unfold lookAhead
  cases room : session.limitReached progress.returned with
  | true => exact .full room
  | false =>
    simp only [Bool.false_eq_true, if_false]
    unfold fetch
    cases cursor : progress.scrollId with
    | none => exact .cursorless room cursor
    | some id =>
      cases reply : (session.engine.scroll progress.scrolls).result with
      | error cause =>
        simp only [reply, Except.map]
        rw [← cursor]
        exact .failed room cursor reply
      | ok body =>
        simp only [reply, Except.map]
        rw [← cursor]
        exact .fetched room cursor reply

/-- The page of a turn is to be written: there is time, it has hits, and the limit leaves room. -/
structure Due (progress : Progress) (page : Page) : Prop where
  inTime : progress.elapsed ≤ session.options.timeout
  hits : page.hitCount ≠ 0
  room : session.limitReached progress.returned = false

/-- The rows of a page that a turn writes. -/
abbrev rowsDue (progress : Progress) (page : Page) : List Record :=
  session.rowsWithin progress.returned page

/-- The progress once the rows of a page are counted. -/
def counted (progress : Progress) (page : Page) : Progress :=
  { progress with returned := progress.returned + (session.rowsDue progress page).length }

/-- What comes of looking ahead once the rows of a page are counted. -/
def ahead (progress : Progress) (page : Page) : Step (Option Page) :=
  session.lookAhead (session.counted progress page)

theorem looks_ahead (progress : Progress) (page : Page) :
    session.Looks (session.counted progress page) (session.ahead progress page) :=
  session.looks_lookAhead _

/-- The progress after a write, with the encoder that made the chunk. -/
def wrote (progress : Progress) (encoder : Encoder) : Progress :=
  { progress with encoder, writes := progress.writes + 1 }

/-- The ways of taking a turn, each with what was done and what came of it. -/
inductive Turns (progress : Progress) (page : Page) : Step Turn → Prop
  | late (spent : session.options.timeout < progress.elapsed) :
      Turns progress page ⟨[], progress, .ok (.stop .timedOut)⟩
  | exhausted (inTime : progress.elapsed ≤ session.options.timeout) (noHits : page.hitCount = 0) :
      Turns progress page ⟨[], { progress with live := false }, .ok (.stop .exhausted)⟩
  | full (inTime : progress.elapsed ≤ session.options.timeout) (hits : page.hitCount ≠ 0)
      (reached : session.limitReached progress.returned = true) :
      Turns progress page ⟨[], progress, .ok (.stop .limitReached)⟩
  /-- The next page did not come. -/
  | unanswered {cause : QueryError} (due : session.Due progress page)
      (fails : (session.ahead progress page).result = .error cause) :
      Turns progress page
        ⟨(session.ahead progress page).events, (session.ahead progress page).progress,
          .error cause⟩
  /-- The encoder was closed already. -/
  | closed {next : Option Page} {cause : QueryError} (due : session.Due progress page)
      (looked : (session.ahead progress page).result = .ok next)
      (fails : (session.ahead progress page).progress.encoder.encode
        (session.rowsDue progress page) (hasMore next) = .error cause) :
      Turns progress page
        ⟨(session.ahead progress page).events, (session.ahead progress page).progress,
          .error cause⟩
  | refused {next : Option Page} {chunk reason : String} {encoder : Encoder}
      (due : session.Due progress page)
      (looked : (session.ahead progress page).result = .ok next)
      (encodes : (session.ahead progress page).progress.encoder.encode
        (session.rowsDue progress page) (hasMore next) = .ok (chunk, encoder))
      (refuses :
        session.consumer.write (session.ahead progress page).progress.writes = .error reason) :
      Turns progress page
        ⟨(session.ahead progress page).events ++ [.refused chunk],
          wrote (session.ahead progress page).progress encoder, .error (.io reason)⟩
  /-- The page is written; it is the last one if there is none to follow. -/
  | written {next : Option Page} {chunk : String} {encoder : Encoder}
      (due : session.Due progress page)
      (looked : (session.ahead progress page).result = .ok next)
      (encodes : (session.ahead progress page).progress.encoder.encode
        (session.rowsDue progress page) (hasMore next) = .ok (chunk, encoder))
      (takes : session.consumer.write (session.ahead progress page).progress.writes = .ok ()) :
      Turns progress page
        ⟨(session.ahead progress page).events ++ [.chunk chunk],
          wrote (session.ahead progress page).progress encoder,
          .ok ((next.map Turn.next).getD (.stop .limitReached))⟩

/-- The ways of reading pages, each with what was done and what came of it. -/
inductive Reads : Progress → Page → Step Stop → Prop
  | late {progress : Progress} {page : Page}
      (spent : session.options.timeout < progress.elapsed) :
      Reads progress page ⟨[], progress, .ok .timedOut⟩
  | exhausted {progress : Progress} {page : Page}
      (inTime : progress.elapsed ≤ session.options.timeout) (noHits : page.hitCount = 0) :
      Reads progress page ⟨[], { progress with live := false }, .ok .exhausted⟩
  | full {progress : Progress} {page : Page}
      (inTime : progress.elapsed ≤ session.options.timeout) (hits : page.hitCount ≠ 0)
      (reached : session.limitReached progress.returned = true) :
      Reads progress page ⟨[], progress, .ok .limitReached⟩
  /-- The next page did not come. -/
  | unanswered {progress : Progress} {page : Page} {cause : QueryError}
      (due : session.Due progress page)
      (fails : (session.ahead progress page).result = .error cause) :
      Reads progress page
        ⟨(session.ahead progress page).events, (session.ahead progress page).progress,
          .error cause⟩
  /-- The encoder was closed already. -/
  | closed {progress : Progress} {page : Page} {next : Option Page} {cause : QueryError}
      (due : session.Due progress page)
      (looked : (session.ahead progress page).result = .ok next)
      (fails : (session.ahead progress page).progress.encoder.encode
        (session.rowsDue progress page) (hasMore next) = .error cause) :
      Reads progress page
        ⟨(session.ahead progress page).events, (session.ahead progress page).progress,
          .error cause⟩
  | refused {progress : Progress} {page : Page} {next : Option Page} {chunk reason : String}
      {encoder : Encoder} (due : session.Due progress page)
      (looked : (session.ahead progress page).result = .ok next)
      (encodes : (session.ahead progress page).progress.encoder.encode
        (session.rowsDue progress page) (hasMore next) = .ok (chunk, encoder))
      (refuses :
        session.consumer.write (session.ahead progress page).progress.writes = .error reason) :
      Reads progress page
        ⟨(session.ahead progress page).events ++ [.refused chunk],
          wrote (session.ahead progress page).progress encoder, .error (.io reason)⟩
  /-- The page reaches the limit. -/
  | last {progress : Progress} {page : Page} {chunk : String} {encoder : Encoder}
      (due : session.Due progress page)
      (looked : (session.ahead progress page).result = .ok none)
      (encodes : (session.ahead progress page).progress.encoder.encode
        (session.rowsDue progress page) false = .ok (chunk, encoder))
      (takes : session.consumer.write (session.ahead progress page).progress.writes = .ok ()) :
      Reads progress page
        ⟨(session.ahead progress page).events ++ [.chunk chunk],
          wrote (session.ahead progress page).progress encoder, .ok .limitReached⟩
  | next {progress : Progress} {page following : Page} {chunk : String} {encoder : Encoder}
      {rest : Step Stop} (due : session.Due progress page)
      (looked : (session.ahead progress page).result = .ok (some following))
      (encodes : (session.ahead progress page).progress.encoder.encode
        (session.rowsDue progress page) (hasMore (some following)) = .ok (chunk, encoder))
      (takes : session.consumer.write (session.ahead progress page).progress.writes = .ok ())
      (continues :
        Reads (wrote (session.ahead progress page).progress encoder) following rest) :
      Reads progress page
        ⟨(session.ahead progress page).events ++ [.chunk chunk] ++ rest.events, rest.progress,
          rest.result⟩

variable {session}

theorem turn_of_due {progress : Progress} {page : Page} (due : session.Due progress page) :
    session.turn progress page = session.turnOver progress page := by
  have inTime := due.inTime
  simp [turn, due.hits, due.room, Nat.not_lt.mpr inTime]

/-- What a turn over a page that is due comes to, once the next page has been looked for. -/
theorem turnOver_of_looked {progress : Progress} {page : Page} {next : Option Page}
    (looked : (session.ahead progress page).result = .ok next) :
    session.turnOver progress page =
      let written := session.writeRows (session.ahead progress page).progress
        (session.rowsDue progress page) (hasMore next)
      ⟨(session.ahead progress page).events ++ written.events, written.progress,
        written.result.map fun () => (next.map Turn.next).getD (.stop .limitReached)⟩ := by
  unfold ahead counted at looked
  simp only [turnOver, looked, ahead, counted]

theorem turnOver_of_unanswered {progress : Progress} {page : Page} {cause : QueryError}
    (fails : (session.ahead progress page).result = .error cause) :
    session.turnOver progress page =
      ⟨(session.ahead progress page).events, (session.ahead progress page).progress,
        .error cause⟩ := by
  unfold ahead counted at fails
  simp only [turnOver, fails, ahead, counted]

variable (session) in
theorem turns_turn (progress : Progress) (page : Page) :
    session.Turns progress page (session.turn progress page) := by
  -- the cases stand in the order in which a turn makes its tests
  by_cases late : session.options.timeout < progress.elapsed
  · rw [turn, if_pos late]
    exact .late late
  have inTime : progress.elapsed ≤ session.options.timeout := Nat.le_of_not_lt late
  by_cases noHits : page.hitCount = 0
  · rw [turn, if_neg late, if_pos noHits]
    exact .exhausted inTime noHits
  cases reached : session.limitReached progress.returned with
  | true =>
    rw [turn, if_neg late, if_neg noHits, if_pos reached]
    exact .full inTime noHits reached
  | false =>
    have due : session.Due progress page := ⟨inTime, noHits, reached⟩
    rw [turn_of_due due]
    cases looked : (session.ahead progress page).result with
    | error cause =>
      rw [turnOver_of_unanswered looked]
      exact .unanswered due looked
    | ok next =>
      rw [turnOver_of_looked looked]
      cases encodes : (session.ahead progress page).progress.encoder.encode
          (session.rowsDue progress page) (hasMore next) with
      | error cause =>
        simp only [writeRows, encodes, Except.map, List.append_nil]
        exact .closed due looked encodes
      | ok encoded =>
        rcases encoded with ⟨chunk, encoder⟩
        simp only [writeRows, encodes, write]
        cases writes : session.consumer.write (session.ahead progress page).progress.writes with
        | error reason => exact .refused due looked encodes writes
        | ok accepted => exact .written due looked encodes writes

theorem reads_of_loop {turns : Nat} {progress : Progress} {page : Page} {step : Step Stop}
    (looped : session.loop turns progress page = some step) :
    session.Reads progress page step := by
  induction turns generalizing progress page step with
  | zero => cases looped
  | succ turns ih =>
    have taken := session.turns_turn progress page
    rw [loop] at looped
    generalize session.turn progress page = turn at taken looped
    cases taken with
    | late spent =>
      cases looped
      exact .late spent
    | exhausted inTime noHits =>
      cases looped
      exact .exhausted inTime noHits
    | full inTime hits reached =>
      cases looped
      exact .full inTime hits reached
    | unanswered due fails =>
      cases looped
      exact .unanswered due fails
    | closed due looked fails =>
      cases looped
      exact .closed due looked fails
    | refused due looked encodes refuses =>
      cases looped
      exact .refused due looked encodes refuses
    | @written next chunk encoder due looked encodes takes =>
      cases next with
      | none =>
        cases looped
        exact .last due looked encodes takes
      | some following =>
        simp only [Option.map_some, Option.getD_some, Option.map_eq_some_iff] at looped
        rcases looped with ⟨rest, looped, rfl⟩
        exact .next due looked encodes takes (ih looped)

end SearchSql.Session
