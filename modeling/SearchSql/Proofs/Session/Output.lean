import SearchSql.Proofs.Session.Stages

/-!
# A run does not depend on what its output looks like

The outline of a run is the run without the texts that are given to the consumer. Two sessions that
differ in the format, in the download setting, or in the metadata differ in their encoders only. As
long as the two encoders are both open or both closed, they make a chunk for the same batches, and
from every batch they come out alike again. `outline_turn` is the step lemma, and the runs are
compared stage by stage from there.
-/

namespace SearchSql

/-- The event without the text that the consumer is given. -/
def Event.withoutText : Event → Event
  | .chunk _ => .chunk ""
  | .refused _ => .refused ""
  | event => event

/-- All that a session did, whatever it wrote, and what came of it. -/
def Run.outline (run : Run) : Run := { run with events := run.events.map Event.withoutText }

/-- The progress with nothing of the encoder but whether it is closed. -/
def Progress.outline (progress : Progress) : Progress :=
  { progress with encoder := { format := .json, closed := progress.encoder.closed } }

def Step.outline {α : Type} (step : Step α) : Step α :=
  { step with
    events := step.events.map Event.withoutText
    progress := step.progress.outline }

theorem Progress.eq_of_outline {first second : Progress} (alike : first.outline = second.outline) :
    ∃ encoder, encoder.closed = second.encoder.closed ∧ first = { second with encoder } := by
  rcases first with ⟨encoder⟩
  rcases second with ⟨encoder'⟩
  simp only [outline, Progress.mk.injEq, Encoder.mk.injEq, true_and, and_true] at alike
  rcases alike with ⟨sameClosed, rfl, rfl, rfl, rfl, rfl, rfl⟩
  exact ⟨encoder, sameClosed, rfl⟩

theorem Step.eq_of_outline {α : Type} {first second : Step α}
    (alike : first.outline = second.outline) :
    first.events.map Event.withoutText = second.events.map Event.withoutText ∧
      first.progress.outline = second.progress.outline ∧ first.result = second.result := by
  simpa only [outline, Step.mk.injEq] using alike

theorem Step.outline_eq {α : Type} {first second : Step α}
    (events : first.events.map Event.withoutText = second.events.map Event.withoutText)
    (progress : first.progress.outline = second.progress.outline)
    (result : first.result = second.result) : first.outline = second.outline := by
  simp only [outline, events, progress, result]

/-- What follows from equal images follows for all that there is. -/
theorem map_eq_of_map_eq {α β γ δ : Type} {image : α → γ} {image' : β → γ} {f : α → δ} {g : β → δ}
    {some? : Option α} {other? : Option β} (same : some?.map image = other?.map image')
    (follows : ∀ a b, image a = image' b → f a = g b) : some?.map f = other?.map g := by
  cases some? <;> cases other?
  · rfl
  · cases same
  · cases same
  · rw [Option.map_some, Option.map_some, Option.some.injEq] at same
    rw [Option.map_some, Option.map_some, follows _ _ same]

namespace Session

/-- The sessions differ in nothing but their output settings. -/
structure Alike (first second : Session) : Prop where
  engine : first.engine = second.engine
  consumer : first.consumer = second.consumer
  select : first.select = second.select
  limit : first.limit = second.limit
  timeout : first.options.timeout = second.options.timeout
  keepAlive : first.options.keepAlive = second.options.keepAlive

/-- A row makes one row of every format. -/
theorem length_rowsOf (session : Session) (page : Page) :
    (session.rowsOf page).length = (page.rows session.select).length := by
  cases format : session.options.format <;> simp [rowsOf, format]

namespace Alike

variable {first second : Session} {progress progress' : Progress}

theorem length_rowsOf (alike : first.Alike second) (page : Page) :
    (first.rowsOf page).length = (second.rowsOf page).length := by
  rw [Session.length_rowsOf, Session.length_rowsOf, alike.select]

theorem length_rowsWithin (alike : first.Alike second) (returned : Nat) (page : Page) :
    (first.rowsWithin returned page).length = (second.rowsWithin returned page).length := by
  cases limit : second.limit <;>
    simp [rowsWithin, alike.limit, limit, alike.length_rowsOf]

theorem limitReached (alike : first.Alike second) (returned : Nat) :
    first.limitReached returned = second.limitReached returned := by
  simp only [Session.limitReached, alike.limit]

theorem outline_write (alike : first.Alike second)
    (sameOutline : progress.outline = progress'.outline) (chunk chunk' : String) :
    (first.write progress chunk).outline = (second.write progress' chunk').outline := by
  rcases Progress.eq_of_outline sameOutline with ⟨encoder, sameClosed, rfl⟩
  cases writes : second.consumer.write progress'.writes <;>
    simp [write, alike.consumer, writes, Step.outline, Progress.outline, Event.withoutText,
      sameClosed]

/-- Which rows are to be encoded matters neither for success nor for the end of the document. -/
theorem outline_writeRows (alike : first.Alike second)
    (sameOutline : progress.outline = progress'.outline) (rows rows' : List Record) (more : Bool) :
    (first.writeRows progress rows more).outline =
      (second.writeRows progress' rows' more).outline := by
  rcases Progress.eq_of_outline sameOutline with ⟨encoder, sameClosed, rfl⟩
  cases isClosed : progress'.encoder.closed with
  | true =>
    simp only [writeRows, Encoder.encode, sameClosed, isClosed, if_true]
    exact Step.outline_eq rfl sameOutline rfl
  | false =>
    rcases Encoder.exists_encode (sameClosed.trans isClosed) rows more with
      ⟨chunk, next, encodes⟩
    rcases Encoder.exists_encode isClosed rows' more with ⟨chunk', next', encodes'⟩
    simp only [writeRows, encodes, encodes']
    apply alike.outline_write
    simp [Progress.outline, (Encoder.closed_of_encode encodes).2,
      (Encoder.closed_of_encode encodes').2]

theorem outline_lookAhead (alike : first.Alike second)
    (sameOutline : progress.outline = progress'.outline) :
    (first.lookAhead progress).outline = (second.lookAhead progress').outline := by
  rcases Progress.eq_of_outline sameOutline with ⟨encoder, sameClosed, rfl⟩
  cases room : second.limitReached progress'.returned with
  | true =>
    simp only [lookAhead, alike.limitReached, room, if_true]
    exact Step.outline_eq rfl sameOutline rfl
  | false =>
    cases cursor : progress'.scrollId with
    | none =>
      simp [lookAhead, alike.limitReached, room, fetch, cursor, Step.outline, Progress.outline,
        sameClosed]
    | some id =>
      cases reply : (second.engine.scroll progress'.scrolls).result <;>
        simp [lookAhead, alike.limitReached, room, fetch, cursor, alike.engine, alike.keepAlive,
          reply, Step.outline, Progress.outline, sameClosed]

theorem outline_turnOver (alike : first.Alike second)
    (sameOutline : progress.outline = progress'.outline) (page : Page) :
    (first.turnOver progress page).outline = (second.turnOver progress' page).outline := by
  have counts : (first.counted progress page).outline =
      (second.counted progress' page).outline := by
    rcases Progress.eq_of_outline sameOutline with ⟨encoder, sameClosed, rfl⟩
    simp [Progress.outline, counted, rowsDue, alike.length_rowsWithin, sameClosed]
  have looksAlike : (first.ahead progress page).outline = (second.ahead progress' page).outline :=
    alike.outline_lookAhead counts
  rcases Step.eq_of_outline looksAlike with ⟨sameEvents, sameProgress, sameResult⟩
  cases looked : (second.ahead progress' page).result with
  | error cause =>
    rw [turnOver_of_unanswered looked, turnOver_of_unanswered (sameResult.trans looked)]
    exact Step.outline_eq sameEvents sameProgress rfl
  | ok next =>
    rw [turnOver_of_looked looked, turnOver_of_looked (sameResult.trans looked)]
    have writesAlike := alike.outline_writeRows sameProgress (first.rowsDue progress page)
      (second.rowsDue progress' page) (hasMore next)
    rcases Step.eq_of_outline writesAlike with ⟨sameWrites, sameEnd, sameOutcome⟩
    apply Step.outline_eq
    · simp [sameEvents, sameWrites]
    · exact sameEnd
    · simp [sameOutcome]

theorem outline_turn (alike : first.Alike second)
    (sameOutline : progress.outline = progress'.outline) (page : Page) :
    (first.turn progress page).outline = (second.turn progress' page).outline := by
  have turnOver := alike.outline_turnOver sameOutline page
  rcases Progress.eq_of_outline sameOutline with ⟨encoder, sameClosed, rfl⟩
  simp only [turn, alike.timeout, alike.limitReached]
  split
  · exact Step.outline_eq rfl sameOutline rfl
  split
  · exact Step.outline_eq rfl (by simp [Progress.outline, sameClosed]) rfl
  split
  · exact Step.outline_eq rfl sameOutline rfl
  · exact turnOver

theorem outline_loop (alike : first.Alike second) (turns : Nat)
    (sameOutline : progress.outline = progress'.outline) (page : Page) :
    (first.loop turns progress page).map Step.outline =
      (second.loop turns progress' page).map Step.outline := by
  induction turns generalizing progress progress' page with
  | zero => rfl
  | succ turns ih =>
    rcases Step.eq_of_outline (alike.outline_turn sameOutline page) with
      ⟨sameEvents, sameProgress, sameResult⟩
    cases taken : (second.turn progress' page).result with
    | error cause =>
      simp only [loop, sameResult, taken, Option.map_some, Option.some.injEq]
      exact Step.outline_eq sameEvents sameProgress rfl
    | ok taken' =>
      cases taken' with
      | stop stop =>
        simp only [loop, sameResult, taken, Option.map_some, Option.some.injEq]
        exact Step.outline_eq sameEvents sameProgress rfl
      | next following =>
        simp only [loop, sameResult, taken, Option.map_map]
        refine map_eq_of_map_eq (ih sameProgress following) fun rest rest' restAlike => ?_
        rcases Step.eq_of_outline restAlike with ⟨sameRest, sameEnd, sameOutcome⟩
        exact Step.outline_eq (by simp [sameEvents, sameRest]) sameEnd sameOutcome

theorem outline_writeTail (alike : first.Alike second) {step step' : Step Stop}
    (sameOutline : step.outline = step'.outline) :
    (first.writeTail step).outline = (second.writeTail step').outline := by
  rcases Step.eq_of_outline sameOutline with ⟨sameEvents, sameProgress, sameResult⟩
  cases result : step'.result with
  | error cause =>
    simp only [writeTail, sameResult, result]
    exact Step.outline_eq sameEvents sameProgress rfl
  | ok stop =>
    have sameClosed : step.progress.encoder.closed = step'.progress.encoder.closed := by
      rcases Progress.eq_of_outline sameProgress with ⟨encoder, sameClosed, isProgress⟩
      rw [isProgress, sameClosed]
    cases isClosed : step'.progress.encoder.closed with
    | true =>
      simp only [writeTail, sameResult, result, sameClosed, isClosed, if_true]
      exact sameOutline
    | false =>
      rw [writeTail_of_open result isClosed,
        writeTail_of_open (sameResult.trans result) (sameClosed.trans isClosed)]
      rcases Step.eq_of_outline (alike.outline_writeRows sameProgress [] [] false) with
        ⟨sameWrites, sameEnd, sameOutcome⟩
      exact Step.outline_eq (by simp [sameEvents, sameWrites]) sameEnd (by simp [sameOutcome])

theorem outline_writeAggregations (alike : first.Alike second)
    (sameOutline : progress.outline = progress'.outline) (page : Page) :
    (first.writeAggregations progress page).outline =
      (second.writeAggregations progress' page).outline := by
  have counts : { progress with returned := (first.rowsOf page).length }.outline =
      { progress' with returned := (second.rowsOf page).length }.outline := by
    rcases Progress.eq_of_outline sameOutline with ⟨encoder, sameClosed, rfl⟩
    simp [Progress.outline, alike.length_rowsOf, sameClosed]
  have writesAlike :=
    alike.outline_writeRows counts (first.rowsOf page) (second.rowsOf page) false
  rcases Step.eq_of_outline writesAlike with ⟨sameWrites, sameEnd, sameOutcome⟩
  exact Step.outline_eq sameWrites sameEnd (by simp [writeAggregations, sameOutcome])

theorem outline_stream (alike : first.Alike second) (turns : Nat) {opened opened' : Opened}
    (samePage : opened.page = opened'.page)
    (sameOutline : opened.progress.outline = opened'.progress.outline) :
    (first.stream turns opened).map Step.outline =
      (second.stream turns opened').map Step.outline := by
  rcases opened' with ⟨page, progress'⟩
  cases page with
  | aggregations tree id =>
    simp only [stream, samePage, Option.map_some]
    rw [alike.outline_writeAggregations sameOutline]
  | hits found id total =>
    simp only [stream, samePage, Option.map_map]
    exact map_eq_of_map_eq (alike.outline_loop turns sameOutline _) fun _ _ readAlike =>
      alike.outline_writeTail readAlike

theorem outline_conclude (alike : first.Alike second) {step step' : Step Stop}
    (sameOutline : step.outline = step'.outline) :
    (first.conclude step).outline = (second.conclude step').outline := by
  rcases Step.eq_of_outline sameOutline with ⟨sameEvents, sameProgress, sameResult⟩
  rcases Progress.eq_of_outline sameProgress with ⟨encoder, sameClosed, isProgress⟩
  have sameRelease : (first.release step.progress).events =
      (second.release step'.progress).events := by
    rw [events_release, events_release, isProgress]
  cases result : step'.result with
  | error cause =>
    simp [conclude, Run.outline, sameResult, result, sameEvents, sameRelease]
  | ok stop =>
    have sameOutcome : outcome step.progress stop = outcome step'.progress stop := by
      rw [isProgress]
      cases stop <;> rfl
    simp [conclude, Run.outline, sameResult, result, sameEvents, sameRelease, sameOutcome,
      alike.consumer]

/-- Sessions that are alike open a cursor by the same calls, or fail to. -/
theorem outline_openCursor (alike : first.Alike second) (index : String) (query : Query) :
    (∃ events cause, first.openCursor index query = (events, .error cause) ∧
      second.openCursor index query = (events, .error cause)) ∨
    ∃ events opened opened', first.openCursor index query = (events, .ok opened) ∧
      second.openCursor index query = (events, .ok opened') ∧ opened.page = opened'.page ∧
      opened.progress.outline = opened'.progress.outline := by
  unfold openCursor
  rw [alike.engine, alike.keepAlive]
  cases writes : query.toSql with
  | error cause => exact .inl ⟨_, _, rfl, rfl⟩
  | ok sql =>
    cases explains : second.engine.explain.result with
    | error cause => exact .inl ⟨_, _, rfl, rfl⟩
    | ok native =>
      cases finds : second.engine.search.result with
      | error cause => exact .inl ⟨_, _, rfl, rfl⟩
      | ok body => exact .inr ⟨_, _, _, rfl, rfl, rfl, rfl⟩

theorem outline_run (alike : first.Alike second) (turns : Nat) (index : String) (query : Query) :
    (first.run turns index query).map Run.outline =
      (second.run turns index query).map Run.outline := by
  rcases alike.outline_openCursor index query with
    ⟨events, cause, opens, opens'⟩ | ⟨events, opened, opened', opens, opens', samePage, sameOutline⟩
  · simp only [run, opens, opens']
  · simp only [run, opens, opens', drive, Option.map_map]
    refine map_eq_of_map_eq (alike.outline_stream turns samePage sameOutline)
      fun streamed streamed' streamedAlike => ?_
    have concluded := alike.outline_conclude streamedAlike
    simp only [Run.outline, Run.mk.injEq] at concluded
    simp [Run.outline, Run.after, concluded]

end Alike

end Session

/--
The output settings have no bearing on the course of a run: with the same engine, the same consumer
and the same turns, any two settings make the same calls to the engine with the same arguments, give
the consumer a chunk at the same places, end the stream in the same way, and have the same result.
-/
theorem Query.outline_execute (query : Query) (engine : Engine) (consumer : Consumer)
    (options : Options) (format format' : OutputFormat) (download download' : Bool)
    (metadata metadata' : Option Json) (turns : Nat) (index : String) :
    (query.execute engine consumer { options with format, download, metadata } turns index).map
        Run.outline =
      (query.execute engine consumer
          { options with format := format', download := download', metadata := metadata' }
          turns index).map Run.outline := by
  rw [execute_eq, execute_eq]
  cases query.mappingFrom engine with
  | error cause => rfl
  | ok mapping =>
    have alike : (query.session engine consumer { options with format, download, metadata }
        mapping).Alike (query.session engine consumer
          { options with format := format', download := download', metadata := metadata' }
          mapping) := ⟨rfl, rfl, rfl, rfl, rfl, rfl⟩
    simp only [Option.map_map]
    refine map_eq_of_map_eq (alike.outline_run turns index (query.prepare mapping))
      fun run run' ranAlike => ?_
    simp only [Run.outline, Run.mk.injEq] at ranAlike
    simp [Run.outline, Run.after, ranAlike]

end SearchSql
