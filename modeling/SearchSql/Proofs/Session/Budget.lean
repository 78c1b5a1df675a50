import SearchSql.Proofs.Session.Cursor

/-!
# The budget of a run

Time passes only while the engine takes its time to reply, and a session looks at the clock only at
the start of a turn. Whoever asks for a page has looked at it in the same turn, so that no scroll
call is made beyond the budget; and after the last look no time passes, since a turn that ends the
reading of pages has made no call. What a run comes to therefore tells whether the delays of its
calls add up to more than its budget (`Session.timedOut_iff_of_reads`).

A call that is under way is never cut short. If it fails, then so does the run, however late. If it
brings an explanation, then that is searched for; and if it brings a page, then the chunk that waits
for the page is written before the budget is found to be spent. Up to there a run with a longer
budget does the same (`Session.loop_withTimeout`).
-/

namespace SearchSql

/--
These events are those of a patient run up to some point, where the last page that was asked for has
been made use of, and from there on no call is made that takes time.
-/
def StopsShort (events patient : List Event) : Prop :=
  ∃ shared closing, events = shared ++ closing ∧ shared <+: patient ∧
    (∀ event ∈ shared.getLast?, event.isScroll = false) ∧ ∀ event ∈ closing, event.isQuiet = true

theorem StopsShort.after {calls events patient : List Event}
    (noScroll : ∀ event ∈ calls, event.isScroll = false) (short : StopsShort events patient) :
    StopsShort (calls ++ events) (calls ++ patient) := by
  rcases short with ⟨shared, closing, rfl, isShared, used, quiet⟩
  refine ⟨calls ++ shared, closing, (List.append_assoc ..).symm, ?_, ?_, quiet⟩
  · rw [List.prefix_append_right_inj]
    exact isShared
  · intro event isLast
    rw [List.getLast?_append, Option.mem_def, Option.or_eq_some_iff] at isLast
    rcases isLast with inShared | ⟨-, inCalls⟩
    · exact used event inShared
    · exact noScroll event (List.mem_of_getLast? inCalls)

/-- What a run does about its budget. -/
structure Run.KeepsBudget (engine : Engine) (options : Options) (index : String) (run : Run) :
    Prop where
  /-- A scroll call is made within the budget. -/
  inTime : ∀ before id keepAlive after, run.events = before ++ .scroll id keepAlive :: after →
    engine.elapsed before ≤ options.timeout
  /-- A result of hits is reported as over the budget if and only if the calls took longer. -/
  outcome : ∀ found id total outcome, engine.search.page? = some (.hits found id total) →
    run.result = .ok outcome →
    ((∃ returned, outcome = .overBudget returned) ↔ options.timeout < engine.elapsed run.events)
  /-- An explanation is made use of, however long it took. -/
  asked : ∀ sql native, .explain sql ∈ run.events → engine.explain.result = .ok native →
    ∃ target keepAlive,
      .search target (NativeQuery.withSortDefaults native) keepAlive ∈ run.events
  /-- A call that fails is the failure of the run, however long it took. -/
  explained : ∀ sql cause, .explain sql ∈ run.events → engine.explain.result = .error cause →
    run.result = .error (explainError cause)
  searched : ∀ target native keepAlive cause, .search target native keepAlive ∈ run.events →
    engine.search.result = .error cause → run.result = .error (searchError index cause)
  scrolled : ∀ call cause, call < run.events.countP Event.isScroll →
    (engine.scroll call).result = .error cause → run.result = .error (.backend cause)

namespace Session

variable {session : Session} {history : List Event} {earlier : List Page} {progress : Progress}
  {page : Page} {step : Step Stop}

/-! ## Before the first page -/

section Opening

variable {index : String} {query : Query} {events : List Event} {cause : QueryError}

theorem Opens.asked {result : Except QueryError Opened}
    (opens : session.Opens index query (events, result)) {sql : String} {native : Json}
    (made : .explain sql ∈ events) (explains : session.engine.explain.result = .ok native) :
    ∃ target keepAlive,
      .search target (NativeQuery.withSortDefaults native) keepAlive ∈ events := by
  cases opens with
  | unwritten => cases made
  | unexplained writes unanswered =>
    rw [unanswered] at explains
    cases explains
  | unfound writes explained | found writes explained =>
    rw [explained, Except.ok.injEq] at explains
    rw [← explains]
    exact ⟨_, _, List.mem_cons_of_mem _ List.mem_cons_self⟩

theorem Opens.explained (opens : session.Opens index query (events, .error cause)) {sql : String}
    {failure : BackendError} (made : .explain sql ∈ events)
    (fails : session.engine.explain.result = .error failure) : cause = explainError failure := by
  cases opens with
  | unwritten => cases made
  | unexplained writes unanswered =>
    rw [unanswered] at fails
    cases fails
    rfl
  | unfound writes explains =>
    rw [explains] at fails
    cases fails

theorem Opens.searched (opens : session.Opens index query (events, .error cause))
    {target keepAlive : String} {native : Json} {failure : BackendError}
    (made : .search target native keepAlive ∈ events)
    (fails : session.engine.search.result = .error failure) :
    cause = searchError index failure := by
  cases opens with
  | unwritten => cases made
  | unexplained => cases List.mem_singleton.mp made
  | unfound writes explains unanswered =>
    rw [unanswered] at fails
    cases fails
    rfl

end Opening

/-! ## The last look at the clock -/

/-- Where there is no room for a further page, none is asked for. -/
theorem Looks.events_eq_nil {look : Step (Option Page)} (looks : session.Looks progress look)
    (looked : look.result = .ok none) : look.events = [] := by
  cases looks with
  | full => rfl
  | cursorless | failed | fetched => cases looked

/-- The reading of pages stops for lack of time if and only if the calls took too long. -/
theorem timedOut_iff_of_reads (reads : session.Reads progress page step)
    (follows : session.Follows history earlier progress page) {stop : Stop}
    (stops : step.result = .ok stop) :
    stop = .timedOut ↔
      session.options.timeout < session.engine.elapsed (history ++ step.events) := by
  induction reads generalizing history earlier with
  | late spent =>
    cases stops
    rw [List.append_nil, ← follows.elapsed]
    exact iff_of_true rfl spent
  | exhausted inTime | full inTime =>
    cases stops
    rw [List.append_nil, ← follows.elapsed]
    exact iff_of_false nofun (Nat.not_lt.mpr inTime)
  | unanswered | closed | refused => cases stops
  | @last progress page chunk encoder due looked =>
    cases stops
    have noCall := (session.looks_ahead progress page).events_eq_nil looked
    rw [noCall, List.nil_append, Engine.elapsed_append_single _ (Event.isQuiet_chunk chunk),
      ← follows.elapsed]
    exact iff_of_false nofun (Nat.not_lt.mpr due.inTime)
  | next due looked encodes takes continues ih =>
    rw [← List.append_assoc]
    exact ih (follows.next due looked encodes) stops

/-- A page that came is made use of before the reading of pages stops. -/
theorem used_of_reads (reads : session.Reads progress page step) {stop : Stop}
    (stops : step.result = .ok stop) :
    ∀ event ∈ step.events.getLast?, event.isScroll = false := by
  induction reads with
  | late | exhausted | full => nofun
  | unanswered | closed | refused => cases stops
  | last =>
    intro event isLast
    rw [List.getLast?_concat, Option.mem_some] at isLast
    rw [← isLast]
    rfl
  | next due looked encodes takes continues ih =>
    intro event isLast
    rw [List.getLast?_append, List.getLast?_concat, Option.mem_def, Option.or_eq_some_iff] at isLast
    rcases isLast with isLater | ⟨-, isChunk⟩
    · exact ih stops event isLater
    · cases isChunk
      rfl

theorem exists_overBudget_iff {stop : Stop} :
    (∃ returned, outcome progress stop = .overBudget returned) ↔ stop = .timedOut := by
  cases stop <;> simp [outcome]

/-! ## Calls that fail -/

theorem error_ne_of_answered (answered : ∀ reply ∈ session.engine.cursorReplies history,
    reply.page? ≠ none) {call : Nat} (made : call < history.countP Event.isScroll)
    {cause : BackendError} : (session.engine.scroll call).result ≠ .error cause := by
  intro fails
  refine answered (session.engine.scroll call) ?_ (Reply.page?_of_error fails)
  rw [Engine.cursorReplies]
  exact List.mem_append_right _ (List.mem_map_of_mem (List.mem_range.mpr made))

/-- Looking ahead comes to something only if the calls up to there were answered. -/
theorem Follows.answered_ahead (follows : session.Follows history earlier progress page)
    {next : Option Page} (looked : (session.ahead progress page).result = .ok next) :
    ∀ reply ∈ session.engine.cursorReplies (history ++ (session.ahead progress page).events),
      reply.page? ≠ none := by
  have looks := session.looks_ahead progress page
  generalize session.ahead progress page = ahead at looked looks ⊢
  cases looks with
  | full | cursorless =>
    rw [List.append_nil]
    exact follows.answered
  | failed => cases looked
  | fetched room cursor brings =>
    change (session.engine.scroll progress.scrolls).result = _ at brings
    rw [follows.scrolls] at brings
    simpa [or_imp, forall_and, Reply.page?_of_ok brings] using follows.answered

/-- Of the calls up to a look-ahead that fails, the last is the one that fails. -/
theorem Follows.error_ahead (follows : session.Follows history earlier progress page)
    {cause : QueryError} (unanswered : (session.ahead progress page).result = .error cause)
    {call : Nat} {failure : BackendError}
    (made : call < (history ++ (session.ahead progress page).events).countP Event.isScroll)
    (fails : (session.engine.scroll call).result = .error failure) :
    cause = .backend failure := by
  have looks := session.looks_ahead progress page
  generalize session.ahead progress page = ahead at unanswered made looks
  cases looks with
  | full | cursorless | fetched => cases unanswered
  | @failed id cause' room cursor isFailure =>
    cases unanswered
    change (session.engine.scroll progress.scrolls).result = _ at isFailure
    rw [follows.scrolls] at isFailure
    have last : call = history.countP Event.isScroll := by
      refine (Nat.lt_or_eq_of_le ?_).resolve_left fun before =>
        error_ne_of_answered follows.answered before fails
      simpa [List.countP_append, List.countP_cons, Event.isScroll, Nat.lt_succ_iff] using made
    rw [last, isFailure] at fails
    cases fails
    rfl

/-- A scroll call that fails is what the reading of pages fails with. -/
theorem error_of_reads (reads : session.Reads progress page step)
    (follows : session.Follows history earlier progress page) {call : Nat} {cause : BackendError}
    (made : call < (history ++ step.events).countP Event.isScroll)
    (fails : (session.engine.scroll call).result = .error cause) :
    step.result = .error (.backend cause) := by
  induction reads generalizing history earlier with
  | late | exhausted | full =>
    rw [List.append_nil] at made
    exact absurd fails (error_ne_of_answered follows.answered made)
  | unanswered due unanswered =>
    rw [follows.error_ahead unanswered made fails]
  | closed due looked =>
    exact absurd fails (error_ne_of_answered (follows.answered_ahead looked) made)
  | refused due looked | last due looked =>
    rw [← List.append_assoc, List.countP_append] at made
    exact absurd fails (error_ne_of_answered (follows.answered_ahead looked) made)
  | next due looked encodes takes continues ih =>
    rw [← List.append_assoc] at made
    exact ih (follows.next due looked encodes) made

/-! ## The whole stream -/

theorem countP_isScroll_append_quiet {later : List Event}
    (quiet : ∀ event ∈ later, event.isQuiet = true) :
    (history ++ later).countP Event.isScroll = history.countP Event.isScroll := by
  have noScroll : later.countP Event.isScroll = 0 :=
    List.countP_eq_zero.mpr fun event member isScroll => by
      rw [(Event.not_calls_of_isQuiet (quiet event member)).2.2] at isScroll
      cases isScroll
  rw [List.countP_append, noScroll, Nat.add_zero]

theorem Closes.stop_eq {stop stop' : Stop} {tail : Step Stop}
    (closes : session.Closes stop progress tail) (stops : tail.result = .ok stop') :
    stop' = stop := by
  cases closes with
  | already | tail =>
    cases stops
    rfl
  | refused => cases stops

theorem timedOut_iff_of_streams {opened : Opened} {streamed : Step Stop}
    (streams : session.Streams opened streamed)
    (follows : session.Follows history [] opened.progress opened.page) {found : List Json}
    {id : Option String} {total : Option Nat} (isPage : opened.page = .hits found id total)
    {stop : Stop} (stops : streamed.result = .ok stop) :
    stop = .timedOut ↔
      session.options.timeout < session.engine.elapsed (history ++ streamed.events) := by
  cases streams with
  | refused => cases stops
  | aggregated isTree =>
    rw [isTree] at isPage
    cases isPage
  | failed => cases stops
  | read isPage reads read closes =>
    rw [closes.stop_eq stops, ← List.append_assoc,
      Engine.elapsed_append_quiet closes.isQuiet_of_mem]
    exact timedOut_iff_of_reads reads follows read

theorem error_of_streams {opened : Opened} {streamed : Step Stop}
    (streams : session.Streams opened streamed)
    (follows : session.Follows history [] opened.progress opened.page) {call : Nat}
    {cause : BackendError} (made : call < (history ++ streamed.events).countP Event.isScroll)
    (fails : (session.engine.scroll call).result = .error cause) :
    streamed.result = .error (.backend cause) := by
  cases streams with
  | refused | aggregated =>
    rw [countP_isScroll_append_quiet (by simp)] at made
    exact absurd fails (error_ne_of_answered follows.answered made)
  | failed isPage reads unread =>
    rw [← unread]
    exact error_of_reads reads follows made fails
  | read isPage reads read closes =>
    rw [← List.append_assoc, countP_isScroll_append_quiet closes.isQuiet_of_mem] at made
    rw [error_of_reads reads follows made fails] at read
    cases read

/-! ## Longer budgets -/

theorem prefix_writeTail (session : Session) (step : Step Stop) :
    step.events <+: (session.writeTail step).events := by
  cases result : step.result with
  | error cause => simp [writeTail, result]
  | ok stop =>
    rcases exists_closes_of_ok session result with ⟨tail, -, tailed⟩
    rw [tailed]
    exact List.prefix_append _ _

/-- Ending a stream takes no time. -/
theorem exists_events_conclude (session : Session) (streamed : Step Stop) :
    ∃ ending, (session.conclude streamed).events = streamed.events ++ ending ∧
      ∀ event ∈ ending, event.isQuiet = true := by
  rcases session.events_conclude streamed with ⟨last, isLast, concludes⟩
  refine ⟨_, concludes, List.forall_mem_cons.mpr ⟨(Event.quiet_of_isTerminal isLast).1, ?_⟩⟩
  intro event released
  rcases eq_clear_of_mem_release released with ⟨id, rfl⟩
  rfl

section WithTimeout

variable (session) (timeout : Nat)

/-- The same session with another budget. -/
def withTimeout : Session := { session with options := { session.options with timeout } }

variable {session timeout}

/-- In time, a turn is the same with any longer budget. -/
theorem turn_withTimeout (longer : session.options.timeout ≤ timeout)
    (inTime : progress.elapsed ≤ session.options.timeout) :
    (session.withTimeout timeout).turn progress page = session.turn progress page := by
  have inTime' : ¬ (session.withTimeout timeout).options.timeout < progress.elapsed :=
    Nat.not_lt.mpr (Nat.le_trans inTime longer)
  rw [turn, turn, if_neg inTime', if_neg (Nat.not_lt.mpr inTime)]
  rfl

/-- A longer budget changes nothing up to where the budget is found to be spent. -/
theorem loop_withTimeout (longer : session.options.timeout ≤ timeout) {turns turns' : Nat}
    {step' : Step Stop} (looped : session.loop turns progress page = some step)
    (looped' : (session.withTimeout timeout).loop turns' progress page = some step') :
    step' = step ∨ step.result = .ok .timedOut ∧ step.events <+: step'.events := by
  induction turns generalizing turns' progress page step step' with
  | zero => cases looped
  | succ turns ih =>
    cases turns' with
    | zero => cases looped'
    | succ turns' =>
      by_cases late : session.options.timeout < progress.elapsed
      · simp only [loop, turn, late, if_true, Option.some.injEq] at looped
        subst looped
        exact Or.inr ⟨rfl, List.nil_prefix⟩
      · rw [loop, turn_withTimeout longer (Nat.le_of_not_lt late)] at looped'
        rw [loop] at looped
        generalize session.turn progress page = taken at looped looped'
        -- only a turn that goes on leaves anything to the budget
        rcases taken with ⟨events, progress', cause | stop | following⟩
        · left
          exact Option.some.inj (looped'.symm.trans looped)
        · left
          exact Option.some.inj (looped'.symm.trans looped)
        · simp only [Option.map_eq_some_iff] at looped looped'
          rcases looped with ⟨rest, looped, rfl⟩
          rcases looped' with ⟨rest', looped', rfl⟩
          rcases ih looped looped' with rfl | ⟨timedOut, isPrefix⟩
          · exact Or.inl rfl
          · exact Or.inr ⟨timedOut, (List.prefix_append_right_inj events).mpr isPrefix⟩

theorem drive_withTimeout (longer : session.options.timeout ≤ timeout) {opened : Opened}
    (follows : session.Follows history [] opened.progress opened.page) {turns turns' : Nat}
    {run run' : Run} (driven : session.drive turns opened = some run)
    (driven' : (session.withTimeout timeout).drive turns' opened = some run') :
    run' = run ∨ session.options.timeout < session.engine.elapsed (history ++ run.events) ∧
      StopsShort run.events run'.events := by
  unfold drive stream at driven driven'
  cases isPage : opened.page with
  | aggregations tree id =>
    left
    rw [isPage] at driven driven'
    exact Option.some.inj (driven'.symm.trans driven)
  | hits found id total =>
    rw [isPage] at driven driven'
    rw [isPage] at follows
    simp only [Option.map_map, Option.map_eq_some_iff, Function.comp] at driven driven'
    rcases driven with ⟨step, looped, rfl⟩
    rcases driven' with ⟨step', looped', rfl⟩
    rcases loop_withTimeout longer looped looped' with rfl | ⟨timedOut, isPrefix⟩
    · exact Or.inl rfl
    have reads := reads_of_loop looped
    rcases exists_closes_of_ok session timedOut with ⟨tail, closes, tailed⟩
    rcases session.exists_events_conclude (session.writeTail step) with ⟨ending, concludes, quiet⟩
    rw [tailed, List.append_assoc] at concludes
    have quiet' : ∀ event ∈ tail.events ++ ending, event.isQuiet = true :=
      List.forall_mem_append.mpr ⟨closes.isQuiet_of_mem, quiet⟩
    have patient : step.events <+: ((session.withTimeout timeout).conclude
        ((session.withTimeout timeout).writeTail step')).events := by
      rcases (session.withTimeout timeout).exists_events_conclude
        ((session.withTimeout timeout).writeTail step') with ⟨ending', concludes', -⟩
      rw [concludes']
      exact isPrefix.trans ((prefix_writeTail _ _).trans (List.prefix_append _ _))
    right
    rw [tailed, concludes]
    constructor
    · rw [← List.append_assoc, Engine.elapsed_append_quiet quiet']
      exact (timedOut_iff_of_reads reads follows timedOut).mp rfl
    · exact ⟨step.events, _, rfl, patient, used_of_reads reads timedOut, quiet'⟩

end WithTimeout

end Session

namespace Query

variable {query : Query} {engine : Engine} {consumer : Consumer} {options : Options}
  {mapping : Mapping} {index : String} {run : Run}

/-- A run with a longer budget is the same, unless the shorter one was spent. -/
theorem execute_withTimeout {timeout turns turns' : Nat} {run' : Run}
    (longer : options.timeout ≤ timeout)
    (ran : query.execute engine consumer options turns index = some run)
    (ran' : query.execute engine consumer { options with timeout } turns' index = some run') :
    run' = run ∨
      options.timeout < engine.elapsed run.events ∧ StopsShort run.events run'.events := by
  rw [execute_eq] at ran ran'
  cases maps : query.mappingFrom engine with
  | error cause =>
    left
    rw [maps] at ran ran'
    exact Option.some.inj (ran'.symm.trans ran)
  | ok mapping =>
    have sameSession : query.session engine consumer { options with timeout } mapping =
        (query.session engine consumer options mapping).withTimeout timeout := rfl
    rw [maps] at ran ran'
    simp only [Option.map_eq_some_iff, sameSession] at ran ran'
    rcases ran with ⟨inner, ran, rfl⟩
    rcases ran' with ⟨inner', ran', rfl⟩
    have opens :=
      (query.session engine consumer options mapping).opens_openCursor index (query.prepare mapping)
    have sameOpening :
        ((query.session engine consumer options mapping).withTimeout timeout).openCursor index
          (query.prepare mapping) =
        (query.session engine consumer options mapping).openCursor index (query.prepare mapping) :=
      rfl
    unfold Session.run at ran ran'
    rw [sameOpening] at ran'
    generalize (query.session engine consumer options mapping).openCursor index
      (query.prepare mapping) = opening at ran ran' opens
    rcases opening with ⟨events, cause | opened⟩
    · left
      rw [Option.some.inj (ran'.symm.trans ran)]
    · simp only [Option.map_eq_some_iff] at ran ran'
      rcases ran with ⟨driven, drives, rfl⟩
      rcases ran' with ⟨driven', drives', rfl⟩
      rcases Session.drive_withTimeout longer (follows_of_opens opens) drives drives' with
        rfl | ⟨spent, short⟩
      · exact Or.inl rfl
      right
      have noScroll : ∀ event ∈ query.lookUps index ++ events, event.isScroll = false :=
        fun event member => ((isOpening_of_opens opens).not_cursorCall member).1
      have short' := short.after noScroll
      rw [List.append_assoc, List.append_assoc] at short'
      rw [List.append_assoc] at spent
      exact ⟨spent, short'⟩

theorem isQuiet_of_mem_lookUps {event : Event} (member : event ∈ query.lookUps index) :
    event.isQuiet = true := by
  unfold lookUps at member
  split at member
  · rw [List.mem_singleton.mp member]
    rfl
  · cases member

theorem keepsBudget_of_failed {calls : List Event} {cause : QueryError}
    (noScroll : ∀ event ∈ calls, event.isScroll = false)
    (asked : ∀ sql native, .explain sql ∈ calls → engine.explain.result = .ok native →
      ∃ target keepAlive, .search target (NativeQuery.withSortDefaults native) keepAlive ∈ calls)
    (explained : ∀ sql failure, .explain sql ∈ calls → engine.explain.result = .error failure →
      cause = explainError failure)
    (searched : ∀ target native keepAlive failure, .search target native keepAlive ∈ calls →
      engine.search.result = .error failure → cause = searchError index failure) :
    (Run.failed calls cause).KeepsBudget engine options index := by
  have noScroll' : ∀ event ∈ (Run.failed calls cause).events, event.isScroll = false :=
    List.forall_mem_append.mpr ⟨noScroll, by simp [Event.isScroll]⟩
  constructor
  · intro before id keepAlive after isRun
    cases noScroll' (.scroll id keepAlive) (by simp [isRun])
  · intro found id total outcome _ succeeds
    cases succeeds
  · intro sql native made explains
    rcases asked sql native (by simpa [Run.failed] using made) explains with
      ⟨target, keepAlive, isAsked⟩
    exact ⟨target, keepAlive, List.mem_append_left _ isAsked⟩
  · intro sql failure made fails
    rw [Run.failed, explained sql failure (by simpa [Run.failed] using made) fails]
  · intro target native keepAlive failure made fails
    rw [Run.failed, searched target native keepAlive failure (by simpa [Run.failed] using made)
      fails]
  · intro call failure made
    rw [List.countP_eq_zero.mpr (by simpa using noScroll')] at made
    cases made

theorem keepsBudget_of_unopened {prepared : Query} {events : List Event} {cause : QueryError}
    (opens : (query.session engine consumer options mapping).Opens index prepared
      (events, .error cause)) :
    (Run.failed (query.lookUps index ++ events) cause).KeepsBudget engine options index := by
  have opening := isOpening_of_opens opens
  have ofOpening : ∀ event ∈ query.lookUps index ++ events, event.isQuiet = false →
      event ∈ events := by
    intro event member loud
    refine (List.mem_append.mp member).resolve_left fun isLookUp => ?_
    rw [isQuiet_of_mem_lookUps isLookUp] at loud
    cases loud
  refine keepsBudget_of_failed (fun event member => (opening.not_cursorCall member).1) ?_ ?_ ?_
  · intro sql native made explains
    rcases opens.asked (ofOpening _ made rfl) explains with ⟨target, keepAlive, isAsked⟩
    exact ⟨target, keepAlive, List.mem_append_right _ isAsked⟩
  · intro sql failure made fails
    exact opens.explained (ofOpening _ made rfl) fails
  · intro target native keepAlive failure made fails
    exact opens.searched (ofOpening _ made rfl) fails

theorem keepsBudget_of_streams {prepared : Query} {events : List Event}
    {opened : Session.Opened} {streamed : Step Stop}
    (opens : (query.session engine consumer options mapping).Opens index prepared
      (events, .ok opened))
    (streams : (query.session engine consumer options mapping).Streams opened streamed) :
    (Run.after (query.lookUps index ++ events)
      ((query.session engine consumer options mapping).conclude streamed)).KeepsBudget engine
        options index := by
  have follows := follows_of_opens opens
  have keeps := keepsCursor_of_streams opens streams
  have answered : ∃ native body, engine.explain.result = .ok native ∧
      .search index (NativeQuery.withSortDefaults native) options.keepAlive ∈ events ∧
      engine.search.result = .ok body ∧ opened.page = Page.ofResponse body := by
    cases opens with
    | found writes explains finds =>
      exact ⟨_, _, explains, List.mem_cons_of_mem _ List.mem_cons_self, finds, rfl⟩
  rcases answered with ⟨native, body, explains, isAsked, finds, isBody⟩
  rcases (query.session engine consumer options mapping).exists_events_conclude streamed with
    ⟨ending, concludes, quiet⟩
  constructor
  · intro before id keepAlive after isRun
    exact (keeps.scrolls before id keepAlive after isRun).inTime
  · intro found id total outcome isFirst succeeds
    have isPage : opened.page = .hits found id total := by
      rw [Reply.page?_of_ok finds, Option.some.injEq] at isFirst
      rw [isBody, isFirst]
    rcases after_stream [] succeeds with ⟨stop, stops, rfl, -⟩
    rw [Run.after, concludes, ← List.append_assoc, Engine.elapsed_append_quiet quiet]
    exact Session.exists_overBudget_iff.trans
      (Session.timedOut_iff_of_streams streams follows isPage stops)
  · intro sql native' _ explains'
    rw [explains, Except.ok.injEq] at explains'
    rw [← explains']
    exact ⟨_, _, List.mem_append_left _ (List.mem_append_right _ isAsked)⟩
  · intro sql failure _ fails
    rw [explains] at fails
    cases fails
  · intro target native keepAlive failure _ fails
    rw [finds] at fails
    cases fails
  · intro call failure made fails
    rw [Run.after, concludes, ← List.append_assoc,
      Session.countP_isScroll_append_quiet quiet] at made
    have unread := Session.error_of_streams streams follows made fails
    simp only [Run.after, Session.conclude, unread]

theorem keepsBudget_of_runs (runs : query.Runs engine consumer options index run) :
    run.KeepsBudget engine options index := by
  cases runs with
  | unmapped =>
    refine keepsBudget_of_failed (fun event member => ?_) (fun sql native made => ?_)
      (fun sql failure made => ?_) fun target native keepAlive failure made => ?_
    · exact (Event.not_calls_of_isQuiet (isQuiet_of_mem_lookUps member)).2.2
    · cases isQuiet_of_mem_lookUps made
    · cases isQuiet_of_mem_lookUps made
    · cases isQuiet_of_mem_lookUps made
  | unopened maps opens => exact keepsBudget_of_unopened opens
  | streamed maps opens streams => exact keepsBudget_of_streams opens streams

/--
A run keeps to its budget and reports whether it did; a longer budget changes nothing but what is
done once the shorter one is spent, and the release of the cursor is of no account.
-/
theorem keepsBudget_of_execute {turns : Nat}
    (ran : query.execute engine consumer options turns index = some run) :
    run.KeepsBudget engine options index ∧
      (∀ timeout turns' run', options.timeout ≤ timeout →
        query.execute engine consumer { options with timeout } turns' index = some run' →
        run' = run ∨
          options.timeout < engine.elapsed run.events ∧ StopsShort run.events run'.events) ∧
      ∀ clear, query.execute { engine with clear } consumer options turns index = some run :=
  ⟨keepsBudget_of_runs (runs_of_execute ran),
    fun _ _ _ longer ran' => execute_withTimeout longer ran ran',
    fun clear => (execute_withClear clear turns index).trans ran⟩

/-- An engine that takes its time and never comes to an end. -/
def slowEngine : Engine :=
  { Engine.giving .null [] with
    explain := { result := .ok .null, delay := 40 }
    search := { result := .ok (Page.answer "s1" [[("a", .null)]]), delay := 50 }
    scroll := fun _ => { result := .ok (Page.answer "s2" [[("a", .bool true)]]), delay := 30 } }

/-- The second page is asked for in time and comes too late; with a longer budget there are more. -/
theorem keepsBudget_of_late_page :
    ∃ run run',
      ({ index := "points" } : Query).execute slowEngine .willing { timeout := 100 } 2 "points" =
        some run ∧
      ({ index := "points" } : Query).execute slowEngine .willing { timeout := 200 } 5 "points" =
        some run' ∧
      run.result = .ok (.overBudget 1) ∧ slowEngine.elapsed run.events = 120 ∧
      run'.result = .ok (.overBudget 4) ∧ slowEngine.elapsed run'.events = 210 ∧
      run.KeepsBudget slowEngine { timeout := 100 } "points" ∧ StopsShort run.events run'.events := by
  have keeps := @keepsBudget_of_execute { index := "points" } slowEngine .willing
    { timeout := 100 } "points" _ 2 rfl
  rcases keeps.2.1 200 5 _ (by decide) rfl with same | ⟨-, short⟩
  · cases congrArg Run.result same
  · exact ⟨_, _, rfl, rfl, rfl, rfl, rfl, rfl, keeps.1, short⟩

end Query

end SearchSql
