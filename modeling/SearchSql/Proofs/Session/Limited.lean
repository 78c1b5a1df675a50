import SearchSql.Proofs.Session.Budget
import SearchSql.Proofs.Session.Output

/-!
# A limit on an endless result

A session has no count of its turns, and an engine may give pages for ever. If every page holds an
object, then each turn returns a row at least, so that a limit ends the session: what is left of the
limit shrinks with every turn, and no turn begins when nothing is left.

`Within` is the invariant of the turns, with `Within.next` as the step lemma. It also bounds the
scroll calls, since a turn makes one at most: at the start of a turn there were no more of them than
rows, and one is made only if the rows of the turn have not reached the limit.
-/

namespace SearchSql

/-- A page of hits of which one at least is an object. -/
def Page.HasObject (page : Page) : Prop :=
  ∃ found id total members, page = .hits found id total ∧ .object members ∈ found

/-- Every page that the engine gives has an object among its hits. -/
structure Engine.NeverRunsOut (engine : Engine) : Prop where
  search : ∀ body, engine.search.result = .ok body → (Page.ofResponse body).HasObject
  scroll : ∀ call body, (engine.scroll call).result = .ok body → (Page.ofResponse body).HasObject

theorem Page.HasObject.hitCount_ne_zero {page : Page} (hasObject : page.HasObject) :
    page.hitCount ≠ 0 := by
  rcases hasObject with ⟨found, id, total, members, rfl, isHit⟩
  exact Nat.ne_of_gt (List.length_pos_of_mem isHit)

theorem Page.HasObject.rows_ne_nil {page : Page} (hasObject : page.HasObject)
    (select : List SelectItem) : page.rows select ≠ [] := by
  rcases hasObject with ⟨found, id, total, members, rfl, isHit⟩
  have isRow : ∃ row, Hit.row? (.object members) = some row := by
    unfold Hit.row?
    split
    · exact ⟨_, rfl⟩
    · exact ⟨_, rfl⟩
  rcases isRow with ⟨row, isRow⟩
  have member : row ∈ Hit.rows found := List.mem_filterMap.2 ⟨_, isHit, isRow⟩
  exact List.ne_nil_of_mem (List.mem_map_of_mem member)

namespace Session

/-- The progress and the page that the turns of a session begin with. -/
inductive Reaches (session : Session) (opened : Opened) : Progress → Page → Prop
  | first : Reaches session opened opened.progress opened.page
  | next {progress : Progress} {page following : Page}
      (reaches : Reaches session opened progress page)
      (goesOn : (session.turn progress page).result = .ok (.next following)) :
      Reaches session opened (session.turn progress page).progress following

/-- The limit leaves room for some rows of the page, and is not exceeded by the turn. -/
structure KeepsLimit (session : Session) (limit : Nat) (progress : Progress) (page : Page) :
    Prop where
  room : ∃ left, 0 < left ∧ progress.returned + left = limit ∧
    session.rowsWithin progress.returned page = (session.rowsOf page).take left
  returned : (session.turn progress page).progress.returned ≤ limit

/-- No call fails that a session makes, and all of them take no longer than the budget. -/
structure Unhindered (session : Session) (calls : List Event) (run : Run) : Prop where
  answered : ∀ reply ∈ session.engine.cursorReplies (calls ++ run.events), reply.page? ≠ none
  accepted : ∀ event ∈ run.events, event.isRefusal = false
  finishes : session.consumer.finish = .ok ()
  inTime : session.engine.elapsed (calls ++ run.events) ≤ session.options.timeout

/-- A turn begins with room below the limit, and no more calls than rows were made before. -/
structure Within (limit : Nat) (progress : Progress) (page : Page) : Prop where
  room : progress.returned < limit
  scrolls : progress.scrolls ≤ progress.returned
  page : page.HasObject ∨ page = Page.last

variable {session : Session} {limit : Nat} {progress : Progress} {page following : Page}

theorem rowsWithin_eq (isLimit : session.limit = some limit) (returned : Nat) (page : Page) :
    session.rowsWithin returned page = (session.rowsOf page).take (limit - returned) := by
  simp only [rowsWithin, isLimit]

theorem limitReached_iff (isLimit : session.limit = some limit) {returned : Nat} :
    session.limitReached returned = true ↔ limit ≤ returned := by
  simp [limitReached, isLimit]

theorem Looks.scrolls_eq {step : Step (Option Page)} (looks : session.Looks progress step) :
    step.progress.scrolls = progress.scrolls + step.events.countP Event.isScroll := by
  cases looks <;> simp [scrolled, Event.isScroll]

/-- A turn that goes on has written its page, and the following one has come. -/
theorem due_of_next (goesOn : (session.turn progress page).result = .ok (.next following)) :
    session.Due progress page ∧ (session.ahead progress page).result = .ok (some following) ∧
      ∃ encoder, (session.turn progress page).progress =
        wrote (session.ahead progress page).progress encoder := by
  have taken := session.turns_turn progress page
  generalize session.turn progress page = turn at taken goesOn
  cases taken with
  | late | exhausted | full | unanswered | closed | refused => cases goesOn
  | @written next chunk encoder due looked =>
    cases next with
    | none => cases goesOn
    | some page =>
      cases goesOn
      exact ⟨due, looked, encoder, rfl⟩

/-- Rows are counted only in a turn over a page that is due. -/
theorem returned_turn (session : Session) (progress : Progress) (page : Page) :
    (session.turn progress page).progress.returned = progress.returned ∨
      session.Due progress page ∧ (session.turn progress page).progress.returned =
        (session.ahead progress page).progress.returned := by
  have taken := session.turns_turn progress page
  generalize session.turn progress page = turn at taken
  cases taken with
  | late | exhausted | full => exact .inl rfl
  | unanswered due | closed due | refused due | written due => exact .inr ⟨due, rfl⟩

namespace Within

theorem hasObject_of_due (within : Within limit progress page) (due : session.Due progress page) :
    page.HasObject := by
  rcases within.page with hasObject | rfl
  · exact hasObject
  · exact absurd rfl due.hits

theorem returned_lt_counted (within : Within limit progress page)
    (isLimit : session.limit = some limit) (due : session.Due progress page) :
    progress.returned < (session.counted progress page).returned := by
  have rows := (within.hasObject_of_due due).rows_ne_nil session.select
  have someRows : 0 < (session.rowsOf page).length := by
    rw [length_rowsOf]
    exact List.length_pos_iff.2 rows
  have room := within.room
  rw [returned_counted, rowsDue, rowsWithin_eq isLimit, List.length_take]
  omega

/-- The page is counted, and a further one is asked for, only as far as the limit goes. -/
theorem ahead (within : Within limit progress page) (isLimit : session.limit = some limit)
    (due : session.Due progress page) :
    (session.ahead progress page).progress.returned ≤ limit ∧
      (session.ahead progress page).progress.scrolls < limit ∧
      (session.ahead progress page).progress.scrolls =
        progress.scrolls + (session.ahead progress page).events.countP Event.isScroll := by
  have looks := session.looks_ahead progress page
  have grows := within.returned_lt_counted isLimit due
  refine ⟨?_, ?_, looks.scrolls_eq⟩
  · rw [looks.progress_eq.2.2.1]
    exact returned_counted_le isLimit (Nat.le_of_lt within.room)
  · have few : (session.counted progress page).scrolls < limit :=
      Nat.lt_of_le_of_lt within.scrolls within.room
    generalize session.ahead progress page = ahead at looks ⊢
    cases looks with
    | full | cursorless => exact few
    | failed room | fetched room =>
      -- where a call is made, the rows of the turn have left room
      have room := limitReached_eq_false_iff.1 room limit isLimit
      have scrolls := within.scrolls
      change progress.scrolls + 1 < limit
      omega

/-- A turn that goes on keeps within the limit. -/
theorem next (within : Within limit progress page) (isLimit : session.limit = some limit)
    (neverRunsOut : session.engine.NeverRunsOut) (due : session.Due progress page)
    (looked : (session.ahead progress page).result = .ok (some following)) (encoder : Encoder) :
    Within limit (wrote (session.ahead progress page).progress encoder) following ∧
      progress.returned < (wrote (session.ahead progress page).progress encoder).returned := by
  have looks := session.looks_ahead progress page
  have grows := within.returned_lt_counted isLimit due
  have scrolls := within.scrolls
  generalize session.ahead progress page = ahead at looked looks ⊢
  cases looks with
  | full | failed => cases looked
  | cursorless room =>
    cases looked
    have room := limitReached_eq_false_iff.1 room limit isLimit
    exact ⟨⟨room, Nat.le_of_lt (Nat.lt_of_le_of_lt scrolls grows), .inr rfl⟩, grows⟩
  | fetched room cursor brings =>
    cases looked
    have room := limitReached_eq_false_iff.1 room limit isLimit
    exact ⟨⟨room, Nat.succ_le_of_lt (Nat.lt_of_le_of_lt scrolls grows),
      .inl (neverRunsOut.scroll _ _ brings)⟩, grows⟩

theorem keepsLimit (within : Within limit progress page) (isLimit : session.limit = some limit) :
    session.KeepsLimit limit progress page := by
  have room := within.room
  refine ⟨⟨limit - progress.returned, Nat.sub_pos_of_lt room, Nat.add_sub_of_le (Nat.le_of_lt room),
    rowsWithin_eq isLimit _ _⟩, ?_⟩
  rcases session.returned_turn progress page with same | ⟨due, counted⟩
  · rw [same]
    exact Nat.le_of_lt room
  · rw [counted]
    exact (within.ahead isLimit due).1

end Within

theorem within_of_reaches {opened : Opened} (isLimit : session.limit = some limit)
    (neverRunsOut : session.engine.NeverRunsOut)
    (within : Within limit opened.progress opened.page)
    (reaches : session.Reaches opened progress page) : Within limit progress page := by
  induction reaches with
  | first => exact within
  | next reaches goesOn ih =>
    rcases due_of_next goesOn with ⟨due, looked, encoder, isNext⟩
    rw [isNext]
    exact (ih.next isLimit neverRunsOut due looked encoder).1

/-- As many turns as the limit leaves rows are enough. -/
theorem exists_loop (isLimit : session.limit = some limit)
    (neverRunsOut : session.engine.NeverRunsOut) (within : Within limit progress page) {turns : Nat}
    (enough : limit ≤ progress.returned + turns) :
    ∃ step, session.loop turns progress page = some step := by
  induction turns generalizing progress page with
  | zero => exact absurd within.room (Nat.not_lt.2 enough)
  | succ turns ih =>
    rw [loop]
    split
    · exact ⟨_, rfl⟩
    · exact ⟨_, rfl⟩
    next following goesOn =>
      rcases due_of_next goesOn with ⟨due, looked, encoder, isNext⟩
      rcases within.next isLimit neverRunsOut due looked encoder with ⟨later, grows⟩
      rw [← isNext] at later grows
      rcases ih later (by omega) with ⟨step, looped⟩
      rw [looped]
      exact ⟨_, rfl⟩

/-- Reading pages keeps the calls below the limit, and the rows within it. -/
theorem bounded_of_reads {step : Step Stop} (reads : session.Reads progress page step)
    (isLimit : session.limit = some limit) (neverRunsOut : session.engine.NeverRunsOut)
    (within : Within limit progress page) :
    progress.scrolls + step.events.countP Event.isScroll < limit ∧
      step.progress.returned ≤ limit := by
  induction reads with
  | late | exhausted | full =>
    exact ⟨Nat.lt_of_le_of_lt within.scrolls within.room, Nat.le_of_lt within.room⟩
  | unanswered due | closed due =>
    rcases within.ahead isLimit due with ⟨returned, few, calls⟩
    exact ⟨calls ▸ few, returned⟩
  | refused due | last due =>
    rcases within.ahead isLimit due with ⟨returned, few, calls⟩
    refine ⟨?_, returned⟩
    rw [countP_isScroll_append_quiet (by simp), ← calls]
    exact few
  | next due looked encodes takes continues ih =>
    rcases within.ahead isLimit due with ⟨-, -, calls⟩
    rcases ih (within.next isLimit neverRunsOut due looked _).1 with ⟨few, returned⟩
    refine ⟨?_, returned⟩
    rw [List.countP_append, countP_isScroll_append_quiet (by simp), ← Nat.add_assoc, ← calls]
    exact few

/-- Without failures and in time, the reading of pages ends with the limit. -/
theorem limitReached_of_reads {step : Step Stop} (reads : session.Reads progress page step)
    {history : List Event} {earlier : List Page}
    (follows : session.Follows history earlier progress page)
    (isLimit : session.limit = some limit) (neverRunsOut : session.engine.NeverRunsOut)
    (within : Within limit progress page) (cursor : progress.scrollId ≠ none)
    (hasObject : page.HasObject)
    (answered : ∀ reply ∈ session.engine.cursorReplies (history ++ step.events),
      reply.page? ≠ none)
    (accepted : ∀ event ∈ step.events, event.isRefusal = false)
    (inTime : session.engine.elapsed (history ++ step.events) ≤ session.options.timeout) :
    step.result = .ok .limitReached ∧ step.progress.returned = limit ∧
      step.progress.encoder.closed = true := by
  induction reads generalizing history earlier with
  | late spent =>
    rw [List.append_nil, ← follows.elapsed] at inTime
    exact absurd spent (Nat.not_lt.2 inTime)
  | exhausted _ noHits => exact absurd noHits hasObject.hitCount_ne_zero
  | full _ _ reached =>
    exact absurd within.room (Nat.not_lt.2 ((limitReached_iff isLimit).1 reached))
  | @unanswered progress page cause due fails =>
    have looks := session.looks_ahead progress page
    generalize session.ahead progress page = ahead at fails looks answered
    cases looks with
    | full | cursorless | fetched => cases fails
    | failed room held isFailure =>
      change (session.engine.scroll progress.scrolls).result = _ at isFailure
      rw [follows.scrolls] at isFailure
      exact absurd isFailure (error_ne_of_answered answered (by simp [Event.isScroll]))
  | @closed progress page next cause due looked fails =>
    rw [(session.looks_ahead progress page).progress_eq.1] at fails
    rcases Encoder.exists_encode (follows.open_of_due due) (session.rowsDue progress page)
      (hasMore next) with ⟨chunk, encoder, encodes⟩
    cases encodes.symm.trans fails
  | @refused progress page next chunk =>
    have taken := accepted (.refused chunk) (List.mem_append_right _ List.mem_cons_self)
    cases taken
  | @last progress page chunk encoder due looked encodes =>
    have looks := session.looks_ahead progress page
    generalize session.ahead progress page = ahead at looked encodes looks ⊢
    cases looks with
    | cursorless | failed | fetched => cases looked
    | full reached =>
      have isEnd := limit_of_limitReached reached fun limit' isLimit' =>
        returned_counted_le isLimit' (follows.returned_le_limit isLimit')
      cases isLimit.symm.trans isEnd
      exact ⟨rfl, rfl, (Encoder.closed_of_encode encodes).2⟩
  | @next progress page following chunk encoder rest due looked encodes takes continues ih =>
    have nextFollows := follows.next due looked encodes
    have nextWithin := (within.next isLimit neverRunsOut due looked encoder).1
    have goesOn : (wrote (session.ahead progress page).progress encoder).scrollId ≠ none ∧
        following.HasObject := by
      have looks := session.looks_ahead progress page
      generalize session.ahead progress page = ahead at looked looks ⊢
      cases looks with
      | full | failed => cases looked
      | cursorless room noCursor => exact absurd noCursor cursor
      | fetched room held brings =>
        cases looked
        exact ⟨fun isNone => cursor (Option.or_eq_none_iff.1 isNone).2,
          neverRunsOut.scroll _ _ brings⟩
    rw [← List.append_assoc] at answered inTime
    exact ih nextFollows nextWithin goesOn.1 goesOn.2 answered
      (fun event isEvent => accepted event (List.mem_append_right _ isEvent)) inTime

/-- Once the pages are read, nothing more is asked for, and no row is returned. -/
theorem exists_ending (session : Session) (step : Step Stop) :
    ∃ ending, (session.conclude (session.writeTail step)).events = step.events ++ ending ∧
      (∀ event ∈ ending, event.isQuiet = true) ∧
      ∀ outcome, (session.conclude (session.writeTail step)).result = .ok outcome →
        outcome.returned = step.progress.returned := by
  rcases session.exists_events_conclude (session.writeTail step) with ⟨ending, concludes, quiet⟩
  cases read : step.result with
  | error cause =>
    refine ⟨ending, ?_, quiet, ?_⟩
    · rw [concludes]
      simp only [writeTail, read]
    · simp [conclude, writeTail, read]
  | ok stop =>
    rcases exists_closes_of_ok session read with ⟨tail, closes, tailed⟩
    refine ⟨tail.events ++ ending, ?_, ?_, ?_⟩
    · rw [concludes, tailed, List.append_assoc]
    · exact List.forall_mem_append.2 ⟨closes.isQuiet_of_mem, quiet⟩
    · intro outcome ends
      have same : tail.progress.returned = step.progress.returned := by
        cases closes <;> rfl
      rw [tailed] at ends
      rw [← same]
      cases written : tail.result with
      | error cause => simp [conclude, written] at ends
      | ok stop' =>
        cases finishes : session.consumer.finish with
        | error reason => simp [conclude, written, finishes] at ends
        | ok finished =>
          simp only [conclude, written, finishes, Except.ok.injEq] at ends
          rw [← ends]
          cases stop' <;> rfl

theorem within_of_opens {index : String} {query : Query} {calls : List Event} {opened : Opened}
    (opens : session.Opens index query (calls, .ok opened)) (positive : 0 < limit)
    (hasObject : opened.page.HasObject) : Within limit opened.progress opened.page := by
  cases opens with
  | found => exact ⟨positive, Nat.le_refl 0, .inl hasObject⟩

/--
With a limit a session ends, although the engine may give pages for ever: after fewer scroll calls
than the limit, and with no more rows at any time. If nothing hinders it, then it returns as many
rows as the limit says.
-/
theorem drive_of_limit (isLimit : session.limit = some limit) (positive : 1 ≤ limit)
    (neverRunsOut : session.engine.NeverRunsOut) {index : String} {query : Query}
    {calls : List Event} {opened : Opened}
    (opens : session.openCursor index query = (calls, .ok opened)) {turns : Nat}
    (enough : limit ≤ turns) :
    ∃ run, session.drive turns opened = some run ∧
      run.events.countP Event.isScroll ≤ limit - 1 ∧
      (∀ progress page, session.Reaches opened progress page →
        session.KeepsLimit limit progress page) ∧
      (∀ outcome, run.result = .ok outcome → outcome.returned ≤ limit) ∧
      (opened.page.scrollId ≠ none → session.Unhindered calls run →
        run.result = .ok (.completed limit)) := by
  have opens := opens ▸ session.opens_openCursor index query
  have follows : session.Follows ([] ++ calls) [] opened.progress opened.page :=
    opens.follows nofun
  rw [List.nil_append] at follows
  have hasObject : opened.page.HasObject := by
    rcases opens.page_eq with ⟨body, finds, isPage⟩
    rw [isPage]
    exact neverRunsOut.search body finds
  have within := within_of_opens opens positive hasObject
  rcases exists_loop isLimit neverRunsOut within (Nat.le_trans enough (Nat.le_add_left _ _)) with
    ⟨step, looped⟩
  have reads := reads_of_loop looped
  rcases bounded_of_reads reads isLimit neverRunsOut within with ⟨few, returned⟩
  rcases session.exists_ending step with ⟨ending, events, quiet, counts⟩
  have drives : session.drive turns opened = some (session.conclude (session.writeTail step)) := by
    rcases hasObject with ⟨found, id, total, -, isPage, -⟩
    rw [isPage] at looped
    simp only [drive, stream, isPage, looped, Option.map_some]
  refine ⟨_, drives, ?_, ?_, ?_, ?_⟩
  · rw [events, countP_isScroll_append_quiet quiet]
    omega
  · intro progress page reaches
    exact (within_of_reaches isLimit neverRunsOut within reaches).keepsLimit isLimit
  · intro outcome ends
    rw [counts outcome ends]
    exact returned
  · intro cursor unhindered
    have answered := unhindered.answered
    have inTime := unhindered.inTime
    rw [events, ← List.append_assoc] at answered inTime
    rw [Engine.cursorReplies_append_quiet quiet] at answered
    rw [Engine.elapsed_append_quiet quiet] at inTime
    have accepted : ∀ event ∈ step.events, event.isRefusal = false := fun event isEvent =>
      unhindered.accepted event (events ▸ List.mem_append_left _ isEvent)
    have held : opened.progress.scrollId ≠ none := opens.scrollId_eq ▸ cursor
    rcases limitReached_of_reads reads follows isLimit neverRunsOut within held hasObject answered
      accepted inTime with ⟨stops, isEnd, isClosed⟩
    simp [conclude, writeTail, stops, isClosed, unhindered.finishes, outcome, isEnd]

/-- An engine that gives the same page for ever, with one hit that is no object. -/
theorem drive_of_limit_two :
    let body : Json := .object [("_scroll_id", .string "s1"),
      ("hits", .object [("hits", .array [.null, .object [("a", .bool true)]])])]
    let engine : Engine :=
      { mapping := .ok []
        explain := { result := .ok .null }
        search := { result := .ok body }
        scroll := fun _ => { result := .ok body } }
    let query : Query := { index := "points" }
    let session : Session :=
      { engine, consumer := .willing, select := [], limit := some 2, options := {} }
    ∃ calls opened run, (session.limit = some 2 ∧ 1 ≤ 2 ∧ engine.NeverRunsOut ∧
        session.openCursor "points" query = (calls, .ok opened)) ∧
      session.drive 2 opened = some run ∧ run.events.countP Event.isScroll ≤ 1 ∧
      run.result = .ok (.completed 2) := by
  intro body engine query session
  have hasObject : (Page.ofResponse body).HasObject :=
    ⟨_, _, _, _, rfl, List.mem_cons_of_mem _ List.mem_cons_self⟩
  have neverRunsOut : engine.NeverRunsOut := by
    constructor
    · rintro _ ⟨⟩
      exact hasObject
    · rintro _ _ ⟨⟩
      exact hasObject
  have named : Text.isAllBlank "points" = false := by decide +kernel
  have bare : query.clausesSql = "" := by decide +kernel
  have writes : query.toSql = .ok "SELECT * FROM points" := by
    simp only [Query.toSql, query, named, Bool.false_eq_true, if_false, projectionSql, bare]
    rfl
  let calls : List Event := [.explain "SELECT * FROM points", .search "points" .null "1m"]
  have opens : session.openCursor "points" query = (calls, .ok (session.openedWith body 0)) := by
    rw [openCursor, writes]
    rfl
  rcases @drive_of_limit session _ rfl (by decide) neverRunsOut _ _ _ _ opens 2 (by decide) with
    ⟨run, drives, few, -, -, completes⟩
  have taken : ((session.drive 2 (session.openedWith body 0)).map fun run =>
      (run.events.any Event.isRefusal, engine.elapsed (calls ++ run.events))) =
        some (false, 0) := by
    decide +kernel
  rw [drives, Option.map_some, Option.some.injEq, Prod.mk.injEq] at taken
  refine ⟨_, _, run, ⟨rfl, by decide, neverRunsOut, opens⟩, drives, few, completes nofun ?_⟩
  refine ⟨?_, by simpa using taken.1, rfl, taken.2 ▸ Nat.zero_le _⟩
  intro reply isReply
  have brings : reply.result = .ok body := by
    rcases List.mem_append.1 isReply with searched | scrolled
    · rw [List.mem_singleton.1 searched]
    · rcases List.mem_map.1 scrolled with ⟨call, -, rfl⟩
      rfl
  simp [Reply.page?_of_ok brings]

end Session

end SearchSql
