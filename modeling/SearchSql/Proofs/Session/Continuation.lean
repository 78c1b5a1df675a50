import SearchSql.Proofs.Session.Stages

/-!
# What a failed run has written is how a better one begins

A session looks one page ahead before it writes a page, and never further. What the consumer has
taken when a scroll call or a write fails does therefore not depend on that call: in a world where
everything up to it happens in the same way, and the call succeeds, the consumer is given the same
text and then more.

`Session.Extends` compares the two worlds step by step. The steps are the same as long as every call
of the first session has succeeded (`Session.Unbroken`), and once the first session fails, its text
is a beginning of the second's, whatever the second goes on to do.
-/

namespace SearchSql

/-- The text that the consumer took. -/
def takenText (events : List Event) : String := String.join (events.map Event.written)

@[simp]
theorem takenText_append (first second : List Event) :
    takenText (first ++ second) = takenText first ++ takenText second := by
  simp [takenText, String.join_append]

theorem takenText_of_silent {events : List Event}
    (silent : ∀ event ∈ events, event.isWrite = false) : takenText events = "" := by
  induction events with
  | nil => rfl
  | cons event rest ih =>
    have nothing : event.written = "" := by
      have here := silent event List.mem_cons_self
      cases event <;> first | rfl | cases here
    have later := ih fun event member => silent event (List.mem_cons_of_mem _ member)
    simpa [takenText, nothing] using later

/--
The second engine answers as the first does until a scroll call of the first fails. That call may
succeed with any page, and so may those after it.
-/
structure Engine.AgreesUntilFailure (first second : Engine) : Prop where
  mapping : second.mapping = first.mapping
  explain : second.explain = first.explain
  search : second.search = first.search
  scroll : ∀ call, (∀ earlier ≤ call, (first.scroll earlier).page?.isSome = true) →
    second.scroll call = first.scroll call

/-- The second consumer takes what the first does until a write of the first fails. -/
def Consumer.AgreesUntilFailure (first second : Consumer) : Prop :=
  ∀ call, (∀ earlier ≤ call, first.write earlier = .ok ()) → second.write call = .ok ()

namespace Session

structure AgreesUntilFailure (first second : Session) : Prop where
  engine : first.engine.AgreesUntilFailure second.engine
  consumer : first.consumer.AgreesUntilFailure second.consumer
  select : second.select = first.select
  limit : second.limit = first.limit
  options : second.options = first.options

/-- All scroll calls and all writes so far have succeeded. -/
structure Unbroken (session : Session) (progress : Progress) : Prop where
  scrolls : ∀ call < progress.scrolls, (session.engine.scroll call).page?.isSome = true
  writes : ∀ call < progress.writes, session.consumer.write call = .ok ()

/--
The second step is the first, which has come about without a failure; or the first step fails, and
what was taken in the second begins with what was taken in the first.
-/
def Extends {α : Type} (session : Session) (step step' : Step α) : Prop :=
  (step' = step ∧ session.Unbroken step.progress) ∨
    (∃ cause, step.result = .error cause) ∧
      ∃ rest, takenText step'.events = takenText step.events ++ rest

variable {first second : Session} {progress : Progress} {page : Page}

theorem exists_events_loop {session : Session} {turns : Nat} {step : Step Stop}
    (looped : session.loop (turns + 1) progress page = some step) :
    ∃ more, step.events = (session.turn progress page).events ++ more := by
  rw [loop] at looped
  split at looped
  · cases looped
    exact ⟨[], by simp⟩
  · cases looped
    exact ⟨[], by simp⟩
  · rw [Option.map_eq_some_iff] at looped
    rcases looped with ⟨rest, _, rfl⟩
    exact ⟨rest.events, rfl⟩

theorem exists_events_writeTail (session : Session) (step : Step Stop) :
    ∃ more, (session.writeTail step).events = step.events ++ more := by
  cases result : step.result with
  | error cause => exact ⟨[], by simp [writeTail, result]⟩
  | ok stop =>
    rcases exists_closes_of_ok session result with ⟨tail, _, tailed⟩
    exact ⟨tail.events, by rw [tailed]⟩

/-- A step that fails before the consumer has taken anything is extended by every other. -/
theorem extends_of_silent {α : Type} {events : List Event} {cause : QueryError}
    (silent : takenText events = "") (step : Step α) :
    first.Extends ⟨events, progress, .error cause⟩ step :=
  .inr ⟨⟨cause, rfl⟩, takenText step.events, by simp [silent]⟩

namespace Extends

variable {α β : Type} {step step' : Step α}

theorem taken (extends' : first.Extends step step') :
    ∃ rest, takenText step'.events = takenText step.events ++ rest := by
  rcases extends' with ⟨rfl, _⟩ | ⟨_, taken⟩
  · exact ⟨"", by simp⟩
  · exact taken

theorem map (extends' : first.Extends step step') (f : α → β) :
    first.Extends ⟨step.events, step.progress, step.result.map f⟩
      ⟨step'.events, step'.progress, step'.result.map f⟩ := by
  rcases extends' with ⟨rfl, unbroken⟩ | ⟨⟨cause, fails⟩, taken⟩
  · exact .inl ⟨rfl, unbroken⟩
  · exact .inr ⟨⟨cause, by simp [fails, Except.map]⟩, taken⟩

theorem after (extends' : first.Extends step step') (events : List Event) :
    first.Extends ⟨events ++ step.events, step.progress, step.result⟩
      ⟨events ++ step'.events, step'.progress, step'.result⟩ := by
  rcases extends' with ⟨rfl, unbroken⟩ | ⟨fails, rest, taken⟩
  · exact .inl ⟨rfl, unbroken⟩
  · exact .inr ⟨fails, rest, by simp [taken, String.append_assoc]⟩

/-- A failed step is extended by all that comes after an extension of it. -/
theorem of_failed {failed : Step β} {later : Step β} {more : List Event}
    (extends' : first.Extends step step') {cause : QueryError}
    (stays : failed = ⟨step.events, step.progress, .error cause⟩)
    (goesOn : later.events = step'.events ++ more) : first.Extends failed later := by
  rcases extends'.taken with ⟨rest, taken⟩
  refine .inr ⟨⟨cause, by rw [stays]⟩, rest ++ takenText more, ?_⟩
  simp [goesOn, stays, taken, String.append_assoc]

end Extends

namespace AgreesUntilFailure

theorem rowsOf (agrees : first.AgreesUntilFailure second) (page : Page) :
    second.rowsOf page = first.rowsOf page := by
  simp only [Session.rowsOf, agrees.select, agrees.options]

theorem rowsDue (agrees : first.AgreesUntilFailure second) (progress : Progress) (page : Page) :
    second.rowsDue progress page = first.rowsDue progress page := by
  simp only [Session.rowsDue, rowsWithin, agrees.limit, agrees.rowsOf]

theorem limitReached (agrees : first.AgreesUntilFailure second) (returned : Nat) :
    second.limitReached returned = first.limitReached returned := by
  simp only [Session.limitReached, agrees.limit]

theorem extends_write (agrees : first.AgreesUntilFailure second)
    (unbroken : first.Unbroken progress) (chunk : String) :
    first.Extends (first.write progress chunk) (second.write progress chunk) := by
  cases writes : first.consumer.write progress.writes with
  | error reason =>
    have refused : first.write progress chunk =
        ⟨[.refused chunk], { progress with writes := progress.writes + 1 },
          .error (.io reason)⟩ := by
      simp [write, writes]
    rw [refused]
    exact extends_of_silent rfl _
  | ok accepted =>
    have succeeds : ∀ call < progress.writes + 1, first.consumer.write call = .ok () := by
      intro call before
      rcases Nat.lt_succ_iff_lt_or_eq.mp before with earlier | rfl
      · exact unbroken.writes call earlier
      · exact writes
    have takes : second.consumer.write progress.writes = .ok () :=
      agrees.consumer _ fun earlier before => succeeds earlier (Nat.lt_succ_of_le before)
    left
    simp only [write, writes, takes, true_and]
    exact ⟨unbroken.scrolls, succeeds⟩

theorem extends_writeRows (agrees : first.AgreesUntilFailure second)
    (unbroken : first.Unbroken progress) (rows : List Record) (more : Bool) :
    first.Extends (first.writeRows progress rows more) (second.writeRows progress rows more) := by
  cases encodes : progress.encoder.encode rows more with
  | error cause =>
    simp only [writeRows, encodes]
    exact extends_of_silent rfl _
  | ok encoded =>
    have unbroken' : first.Unbroken { progress with encoder := encoded.2 } :=
      ⟨unbroken.scrolls, unbroken.writes⟩
    simp only [writeRows, encodes]
    exact agrees.extends_write unbroken' encoded.1

theorem extends_lookAhead (agrees : first.AgreesUntilFailure second)
    (unbroken : first.Unbroken progress) :
    first.Extends (first.lookAhead progress) (second.lookAhead progress) := by
  cases room : first.limitReached progress.returned with
  | true =>
    simp only [lookAhead, agrees.limitReached, room, if_true]
    exact .inl ⟨rfl, unbroken⟩
  | false =>
    cases cursor : progress.scrollId with
    | none =>
      simp only [lookAhead, agrees.limitReached, room, fetch, cursor]
      exact .inl ⟨rfl, unbroken.scrolls, unbroken.writes⟩
    | some id =>
      cases reply : (first.engine.scroll progress.scrolls).result with
      | error cause =>
        have failed : first.lookAhead progress =
            ⟨[.scroll id first.options.keepAlive], first.scrolled progress,
              .error (.backend cause)⟩ := by
          simp [lookAhead, room, fetch, cursor, reply, scrolled, Except.map]
        rw [failed]
        exact extends_of_silent rfl _
      | ok body =>
        have succeeds : ∀ call < progress.scrolls + 1,
            (first.engine.scroll call).page?.isSome = true := by
          intro call before
          rcases Nat.lt_succ_iff_lt_or_eq.mp before with earlier | rfl
          · exact unbroken.scrolls call earlier
          · rw [Reply.page?_of_ok reply]
            rfl
        have sameReply : second.engine.scroll progress.scrolls =
            first.engine.scroll progress.scrolls :=
          agrees.engine.scroll _ fun earlier before =>
            succeeds earlier (Nat.lt_succ_of_le before)
        left
        simp only [lookAhead, agrees.limitReached, room, fetch, cursor, sameReply, reply,
          agrees.options, true_and]
        exact ⟨succeeds, unbroken.writes⟩

/-- Looking ahead is the only thing that may fail before the page is written. -/
theorem extends_turnOver (agrees : first.AgreesUntilFailure second)
    (unbroken : first.Unbroken progress) (page : Page) :
    first.Extends (first.turnOver progress page) (second.turnOver progress page) := by
  have counts : first.Unbroken (first.counted progress page) :=
    ⟨unbroken.scrolls, unbroken.writes⟩
  have sameCount : second.counted progress page = first.counted progress page := by
    simp only [counted, agrees.rowsDue]
  have looks : first.Extends (first.ahead progress page) (second.ahead progress page) := by
    rw [ahead, ahead, sameCount]
    exact agrees.extends_lookAhead counts
  have silent : takenText (first.ahead progress page).events = "" :=
    takenText_of_silent (first.looks_ahead progress page).onlyCalls.not_isWrite
  cases looked : (first.ahead progress page).result with
  | error cause =>
    rw [turnOver_of_unanswered looked]
    exact extends_of_silent silent _
  | ok next =>
    rcases looks with ⟨sameLook, stillUnbroken⟩ | ⟨⟨cause, fails⟩, _⟩
    · rw [turnOver_of_looked looked, turnOver_of_looked (sameLook ▸ looked), sameLook,
        agrees.rowsDue]
      exact ((agrees.extends_writeRows stillUnbroken _ _).map _).after _
    · rw [looked] at fails
      cases fails

theorem extends_turn (agrees : first.AgreesUntilFailure second)
    (unbroken : first.Unbroken progress) (page : Page) :
    first.Extends (first.turn progress page) (second.turn progress page) := by
  simp only [turn, agrees.options, agrees.limitReached]
  split
  · exact .inl ⟨rfl, unbroken⟩
  split
  · exact .inl ⟨rfl, unbroken.scrolls, unbroken.writes⟩
  split
  · exact .inl ⟨rfl, unbroken⟩
  · exact agrees.extends_turnOver unbroken page

theorem extends_loop (agrees : first.AgreesUntilFailure second) {turns turns' : Nat}
    {step step' : Step Stop} (unbroken : first.Unbroken progress)
    (looped : first.loop turns progress page = some step)
    (looped' : second.loop turns' progress page = some step') : first.Extends step step' := by
  induction turns generalizing turns' progress page step step' with
  | zero => cases looped
  | succ turns ih =>
    cases turns' with
    | zero => cases looped'
    | succ turns' =>
      have turned := agrees.extends_turn unbroken page
      rcases exists_events_loop looped' with ⟨more, goesOn⟩
      rw [loop] at looped looped'
      cases taken : (first.turn progress page).result with
      | error cause =>
        simp only [taken, Option.some.injEq] at looped
        exact turned.of_failed looped.symm goesOn
      | ok left =>
        rcases turned with ⟨sameTurn, stillUnbroken⟩ | ⟨⟨cause, fails⟩, _⟩
        · rw [sameTurn] at looped'
          cases left with
          | stop stop =>
            simp only [taken, Option.some.injEq] at looped looped'
            subst looped looped'
            exact .inl ⟨rfl, stillUnbroken⟩
          | next following =>
            simp only [taken, Option.map_eq_some_iff] at looped looped'
            rcases looped with ⟨rest, looped, rfl⟩
            rcases looped' with ⟨rest', looped', rfl⟩
            exact (ih stillUnbroken looped looped').after _
        · rw [taken] at fails
          cases fails

theorem extends_writeTail (agrees : first.AgreesUntilFailure second) {step step' : Step Stop}
    (read : first.Extends step step') :
    first.Extends (first.writeTail step) (second.writeTail step') := by
  cases result : step.result with
  | error cause =>
    rcases exists_events_writeTail second step' with ⟨more, goesOn⟩
    have fails : first.writeTail step = ⟨step.events, step.progress, .error cause⟩ := by
      simp [writeTail, result]
    exact read.of_failed fails goesOn
  | ok stop =>
    rcases read with ⟨rfl, unbroken⟩ | ⟨⟨cause, fails⟩, _⟩
    · cases isClosed : step'.progress.encoder.closed with
      | true =>
        simp only [writeTail, result, isClosed, if_true]
        exact .inl ⟨rfl, unbroken⟩
      | false =>
        rw [writeTail_of_open result isClosed, writeTail_of_open result isClosed]
        exact ((agrees.extends_writeRows unbroken [] false).map _).after _
    · rw [result] at fails
      cases fails

theorem extends_stream (agrees : first.AgreesUntilFailure second) {turns turns' : Nat}
    {opened : Opened} {step step' : Step Stop} (unbroken : first.Unbroken opened.progress)
    (streamed : first.stream turns opened = some step)
    (streamed' : second.stream turns' opened = some step') : first.Extends step step' := by
  unfold stream at streamed streamed'
  split at streamed
  next tree id isTree =>
    simp only [isTree, Option.some.injEq] at streamed streamed'
    subst streamed streamed'
    have counts : first.Unbroken
        { opened.progress with returned := (first.rowsOf (.aggregations tree id)).length } :=
      ⟨unbroken.scrolls, unbroken.writes⟩
    simp only [writeAggregations, agrees.rowsOf]
    exact (agrees.extends_writeRows counts _ false).map _
  next found id total isPage =>
    simp only [isPage, Option.map_eq_some_iff] at streamed streamed'
    rcases streamed with ⟨read, looped, rfl⟩
    rcases streamed' with ⟨read', looped', rfl⟩
    exact agrees.extends_writeTail (agrees.extends_loop unbroken looped looped')

theorem openCursor (agrees : first.AgreesUntilFailure second) (index : String) (query : Query) :
    second.openCursor index query = first.openCursor index query := by
  simp only [Session.openCursor, openedWith, agrees.engine.explain, agrees.engine.search,
    agrees.select, agrees.options]

end AgreesUntilFailure

theorem takenText_conclude (session : Session) (streamed : Step Stop) :
    takenText (session.conclude streamed).events = takenText streamed.events := by
  rcases session.events_conclude streamed with ⟨last, terminal, events⟩
  have silent : ∀ event ∈ last :: (session.release streamed.progress).events,
      event.isWrite = false := by
    intro event member
    rcases List.mem_cons.mp member with rfl | released
    · cases event <;> first | rfl | cases terminal
    · rcases eq_clear_of_mem_release released with ⟨id, rfl⟩
      rfl
  rw [events, takenText_append, takenText_of_silent silent, String.append_empty]

theorem AgreesUntilFailure.taken_run (agrees : first.AgreesUntilFailure second)
    {turns turns' : Nat} {index : String} {query : Query} {run run' : Run}
    (ran : first.run turns index query = some run)
    (ran' : second.run turns' index query = some run') :
    ∃ rest, takenText run'.events = takenText run.events ++ rest := by
  have opens := first.opens_openCursor index query
  unfold Session.run at ran ran'
  rw [agrees.openCursor] at ran'
  generalize first.openCursor index query = opening at ran ran' opens
  rcases opening with ⟨events, cause | opened⟩
  · simp only [Option.some.injEq] at ran ran'
    subst ran ran'
    exact ⟨"", by simp⟩
  · simp only [drive, Option.map_map, Option.map_eq_some_iff, Function.comp] at ran ran'
    rcases ran with ⟨streamed, streams, rfl⟩
    rcases ran' with ⟨streamed', streams', rfl⟩
    have unbroken : first.Unbroken opened.progress := by
      cases opens
      exact ⟨by simp [openedWith], by simp [openedWith]⟩
    rcases (agrees.extends_stream unbroken streams streams').taken with ⟨rest, taken⟩
    refine ⟨rest, ?_⟩
    simp [Run.after, takenText_conclude, taken, String.append_assoc]

end Session

namespace Query

/--
Whatever fails while a result is streamed, what the consumer has taken by then is how the text
begins in every run in which the call succeeds: engine and consumer need only do the same up to the
first scroll call and the first write that fail.
-/
theorem taken_of_agreesUntilFailure {query : Query} {engine engine' : Engine}
    {consumer consumer' : Consumer} {options : Options} {turns turns' : Nat} {index : String}
    {run run' : Run} (engines : engine.AgreesUntilFailure engine')
    (consumers : consumer.AgreesUntilFailure consumer')
    (ran : query.execute engine consumer options turns index = some run)
    (ran' : query.execute engine' consumer' options turns' index = some run') :
    ∃ rest, takenText run'.events = takenText run.events ++ rest := by
  have sameMapping : query.mappingFrom engine' = query.mappingFrom engine := by
    simp only [mappingFrom, engines.mapping]
  rw [execute_eq] at ran ran'
  rw [sameMapping] at ran'
  cases maps : query.mappingFrom engine with
  | error cause =>
    simp only [maps, Option.some.injEq] at ran ran'
    subst ran ran'
    exact ⟨"", by simp⟩
  | ok mapping =>
    have agrees : (query.session engine consumer options mapping).AgreesUntilFailure
        (query.session engine' consumer' options mapping) :=
      ⟨engines, consumers, rfl, rfl, rfl⟩
    simp only [maps, Option.map_eq_some_iff] at ran ran'
    rcases ran with ⟨inner, ran, rfl⟩
    rcases ran' with ⟨inner', ran', rfl⟩
    rcases agrees.taken_run ran ran' with ⟨rest, taken⟩
    exact ⟨rest, by simp [Run.after, taken, String.append_assoc]⟩

/-- A scroll call that fails after one chunk, and a write that does. -/
theorem taken_of_two_failures :
    let engine := Engine.giving (Page.answer "s1" [[("a", .bool false)]])
      [Page.answer "s1" [[("a", .bool true)]], Page.answer "s1" [[("a", .null)]]]
    let unanswered := { engine with scroll := fun call =>
      if call = 1 then { result := .error (.status 500 "broken") } else engine.scroll call }
    let full : Consumer :=
      { write := fun call => if call = 1 then .error "disk full" else .ok (), finish := .ok () }
    let options : Options := { format := .csv }
    ∃ run run' run'',
      ({ index := "points" } : Query).execute unanswered .willing options 4 "points" = some run ∧
      ({ index := "points" } : Query).execute engine full options 4 "points" = some run' ∧
      ({ index := "points" } : Query).execute engine .willing options 4 "points" = some run'' ∧
      (run.result.toOption = none ∧ takenText run.events = "a\nfalse\n" ∧
        ∃ rest, takenText run''.events = takenText run.events ++ rest) ∧
      (run'.result.toOption = none ∧ takenText run'.events = "a\nfalse\n" ∧
        ∃ rest, takenText run''.events = takenText run'.events ++ rest) ∧
      run''.result.toOption = some (.completed 3) := by
  intro engine unanswered full options
  have agrees : engine.AgreesUntilFailure engine := ⟨rfl, rfl, rfl, fun _ _ => rfl⟩
  have answered : unanswered.AgreesUntilFailure engine := by
    refine ⟨rfl, rfl, rfl, fun call succeeds => ?_⟩
    have other : call ≠ 1 := by
      rintro rfl
      cases succeeds 1 (Nat.le_refl 1)
    exact (if_neg other).symm
  have unansweredRun : (({ index := "points" } : Query).execute unanswered .willing options 4
      "points").map (fun run => (run.result.toOption, takenText run.events)) =
        some (none, "a\nfalse\n") := by decide +kernel
  have fullRun : (({ index := "points" } : Query).execute engine full options 4
      "points").map (fun run => (run.result.toOption, takenText run.events)) =
        some (none, "a\nfalse\n") := by decide +kernel
  have goodRun : (({ index := "points" } : Query).execute engine .willing options 4
      "points").map (·.result.toOption) = some (some (.completed 3)) := by decide +kernel
  rcases Option.map_eq_some_iff.mp unansweredRun with ⟨run, ran, fails⟩
  rcases Option.map_eq_some_iff.mp fullRun with ⟨run', ran', fails'⟩
  rcases Option.map_eq_some_iff.mp goodRun with ⟨run'', ran'', ends⟩
  rw [Prod.mk.injEq] at fails fails'
  refine ⟨run, run', run'', ran, ran', ran'', ⟨fails.1, fails.2, ?_⟩,
    ⟨fails'.1, fails'.2, ?_⟩, ends⟩
  · exact taken_of_agreesUntilFailure answered (fun _ _ => rfl) ran ran''
  · exact taken_of_agreesUntilFailure agrees (fun _ _ => rfl) ran' ran''

end Query

end SearchSql
