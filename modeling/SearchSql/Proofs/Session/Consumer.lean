import SearchSql.Proofs.Session.Stages

/-!
# What a consumer may rely on

Whatever fails, and wherever it does, a run ends its consumer's part with one terminal operation,
gives it nothing afterwards, and gives it nothing after a chunk that it did not take. The terminal
operation and the result of the run tell the same: an `abort` passes on the error that the run ends
with, and after a `finish` only the consumer itself can have failed.

While a stream is read, the consumer is listening: no terminal operation was made, and every chunk
was taken. `Session.Listens` says so, and counts the chunks, on whose number the answer of the
consumer to the next chunk depends.
-/

namespace SearchSql

/-- Chunks are given only to a consumer that is listening, and refused only by the consumer. -/
def Consumer.Allows (consumer : Consumer) (history : List Event) (event : Event) : Prop :=
  event.isWrite = true →
    (∀ earlier ∈ history, earlier.isTerminal = false ∧ earlier.isRefusal = false) ∧
      (event.isRefusal = false ↔ consumer.write (history.countP Event.isWrite) = .ok ())

/-- What a run did to a consumer, and how its result goes with it. -/
structure Run.Serves (run : Run) (consumer : Consumer) : Prop where
  terminal : run.events.countP Event.isTerminal = 1
  writes : ∀ before event after, run.events = before ++ event :: after →
    consumer.Allows before event
  aborts : ∀ cause, .abort cause ∈ run.events ↔ run.result = .error cause ∧ .finish ∉ run.events
  finishes : .finish ∈ run.events →
    match consumer.finish with
    | .ok () => ∃ outcome, run.result = .ok outcome
    | .error reason => run.result = .error (.io reason)

/-- The result of a run goes with its terminal operation. -/
inductive Run.EndsBy (run : Run) (consumer : Consumer) : Event → Prop
  | abort {cause : QueryError} (fails : run.result = .error cause) :
      EndsBy run consumer (.abort cause)
  | failure {reason : String} (fails : consumer.finish = .error reason)
      (result : run.result = .error (.io reason)) : EndsBy run consumer .finish
  | finish {outcome : Outcome} (finishes : consumer.finish = .ok ())
      (result : run.result = .ok outcome) : EndsBy run consumer .finish

theorem Run.serves_of_endsBy {run : Run} {consumer : Consumer} {before after : List Event}
    {last : Event} (isRun : run.events = before ++ last :: after) (ends : run.EndsBy consumer last)
    (others : ∀ event ∈ before ++ after, event.isTerminal = false)
    (released : ∀ event ∈ after, event.isWrite = false)
    (allowed : Allowed consumer.Allows [] before) : run.Serves consumer := by
  have isLast : last.isTerminal = true := by
    cases ends <;> rfl
  have silent : last.isWrite = false := by
    cases ends <;> rfl
  have only : ∀ event, event.isTerminal = true → (event ∈ run.events ↔ event = last) := by
    intro event isTerminal
    constructor
    · intro member
      rw [isRun, List.mem_append, List.mem_cons] at member
      have noOther : event ∉ before ++ after := by
        intro other
        rw [others event other] at isTerminal
        cases isTerminal
      rcases member with member | same | member
      · exact absurd (List.mem_append_left _ member) noOther
      · exact same
      · exact absurd (List.mem_append_right _ member) noOther
    · rintro rfl
      simp [isRun]
  constructor
  · have noneBefore : before.countP Event.isTerminal = 0 := by
      simpa using fun event member => others event (List.mem_append_left _ member)
    have noneAfter : after.countP Event.isTerminal = 0 := by
      simpa using fun event member => others event (List.mem_append_right _ member)
    simp [isRun, noneBefore, noneAfter, isLast]
  · intro before' event after' isRun'
    have whole : Allowed consumer.Allows [] run.events := by
      rw [isRun, Allowed.append_iff]
      refine ⟨allowed, Allowed.of_forall fun _ later member isWrite => ?_⟩
      have isSilent : later.isWrite = false := by
        rcases List.mem_cons.mp member with rfl | member
        · exact silent
        · exact released later member
      rw [isSilent] at isWrite
      cases isWrite
    rw [isRun'] at whole
    exact whole.split
  · intro cause
    rw [only (.abort cause) rfl, only .finish rfl]
    cases ends with
    | abort fails => simp [fails, eq_comm]
    | failure | finish => simp
  · intro member
    rw [only .finish rfl] at member
    cases ends with
    | abort => cases member
    | failure fails result => simpa [fails] using result
    | finish finishes result => simp [finishes, result]

namespace Session

variable {session : Session} {history : List Event}

/-- The consumer took every chunk so far and has not been told of an end. -/
structure Listens (history : List Event) (progress : Progress) : Prop where
  writes : progress.writes = history.countP Event.isWrite
  listening : ∀ event ∈ history, event.isTerminal = false ∧ event.isRefusal = false

namespace Listens

variable {progress progress' : Progress} {events : List Event} {chunk : String}

theorem after_calls (listens : Listens history progress) (calls : OnlyCalls events)
    (same : progress'.writes = progress.writes) : Listens (history ++ events) progress' := by
  have noWrite : events.countP Event.isWrite = 0 := by
    simpa using calls.not_isWrite
  refine ⟨?_, ?_⟩
  · rw [same, listens.writes, List.countP_append, noWrite, Nat.add_zero]
  · intro event member
    rcases List.mem_append.mp member with before | after
    · exact listens.listening event before
    · exact calls.open_of_mem event after

theorem allowed_refused (listens : Listens history progress) {reason : String}
    (refuses : session.consumer.write progress.writes = .error reason) :
    Allowed session.consumer.Allows history [.refused chunk] := by
  rw [listens.writes] at refuses
  refine ⟨fun _ => ⟨listens.listening, ?_⟩, trivial⟩
  simp [refuses, Event.isRefusal]

theorem allowed_chunk (listens : Listens history progress)
    (takes : session.consumer.write progress.writes = .ok ()) :
    Allowed session.consumer.Allows history [.chunk chunk] := by
  rw [listens.writes] at takes
  refine ⟨fun _ => ⟨listens.listening, ?_⟩, trivial⟩
  simp [takes, Event.isRefusal]

theorem after_chunk (listens : Listens history progress) (chunk : String) (encoder : Encoder) :
    Listens (history ++ [.chunk chunk]) (wrote progress encoder) := by
  refine ⟨?_, ?_⟩
  · rw [List.countP_append, ← listens.writes]
    rfl
  · intro event member
    rcases List.mem_append.mp member with before | written
    · exact listens.listening event before
    · rw [List.mem_singleton.mp written]
      exact ⟨rfl, rfl⟩

end Listens

theorem allowed_of_calls {consumer : Consumer} {events : List Event} (calls : OnlyCalls events) :
    Allowed consumer.Allows history events := by
  apply Allowed.of_forall
  intro before event member isWrite
  rw [calls.not_isWrite event member] at isWrite
  cases isWrite

/-- A consumer that listens when pages are read is served well, and listens on unless that fails. -/
theorem listens_of_reads {progress : Progress} {page : Page} {step : Step Stop}
    (reads : session.Reads progress page step) (listens : Listens history progress) :
    Allowed session.consumer.Allows history step.events ∧
      ∀ stop, step.result = .ok stop → Listens (history ++ step.events) step.progress := by
  induction reads generalizing history with
  | late | full =>
    refine ⟨trivial, fun _ _ => ?_⟩
    rw [List.append_nil]
    exact listens
  | exhausted =>
    refine ⟨trivial, fun _ _ => ?_⟩
    rw [List.append_nil]
    exact ⟨listens.writes, listens.listening⟩
  | @unanswered progress page | @closed progress page =>
    have looks := session.looks_ahead progress page
    exact ⟨allowed_of_calls looks.onlyCalls, nofun⟩
  | @refused progress page next chunk reason encoder due looked encodes refuses =>
    have looks := session.looks_ahead progress page
    refine ⟨?_, nofun⟩
    rw [Allowed.append_iff]
    exact ⟨allowed_of_calls looks.onlyCalls,
      (listens.after_calls looks.onlyCalls looks.progress_eq.2.1).allowed_refused refuses⟩
  | @last progress page chunk encoder due looked encodes takes =>
    have looks := session.looks_ahead progress page
    have listens' := listens.after_calls looks.onlyCalls looks.progress_eq.2.1
    refine ⟨?_, fun _ _ => ?_⟩
    · rw [Allowed.append_iff]
      exact ⟨allowed_of_calls looks.onlyCalls, listens'.allowed_chunk takes⟩
    · rw [← List.append_assoc]
      exact listens'.after_chunk chunk encoder
  | @next progress page following chunk encoder rest due looked encodes takes continues ih =>
    have looks := session.looks_ahead progress page
    have listens' := listens.after_calls looks.onlyCalls looks.progress_eq.2.1
    have later := ih (listens'.after_chunk chunk encoder)
    refine ⟨?_, fun stop stops => ?_⟩
    · rw [Allowed.append_iff, Allowed.append_iff, ← List.append_assoc]
      exact ⟨⟨allowed_of_calls looks.onlyCalls, listens'.allowed_chunk takes⟩, later.1⟩
    · rw [← List.append_assoc, ← List.append_assoc]
      exact later.2 stop stops

theorem allowed_of_streams {opened : Opened} {streamed : Step Stop}
    (streams : session.Streams opened streamed) (listens : Listens history opened.progress) :
    Allowed session.consumer.Allows history streamed.events := by
  cases streams with
  | refused isTree encodes refuses => exact listens.allowed_refused refuses
  | aggregated isTree encodes takes => exact listens.allowed_chunk takes
  | failed isPage reads fails => exact (listens_of_reads reads listens).1
  | @read found id total step tail stop isPage reads stops closes =>
    rcases listens_of_reads reads listens with ⟨allowed, still⟩
    have listens' := still stop stops
    rw [Allowed.append_iff]
    refine ⟨allowed, ?_⟩
    cases closes with
    | already => trivial
    | refused encodes refuses => exact listens'.allowed_refused refuses
    | tail encodes takes => exact listens'.allowed_chunk takes

end Session

namespace Query

variable {query : Query} {engine : Engine} {consumer : Consumer} {options : Options}
  {index : String}

theorem serves_of_failed {calls : List Event} {cause : QueryError} (onlyCalls : OnlyCalls calls) :
    (Run.failed calls cause).Serves consumer := by
  have isRun : (Run.failed calls cause).events = calls ++ .abort cause :: [] := rfl
  refine Run.serves_of_endsBy isRun (.abort rfl) ?_ nofun (Session.allowed_of_calls onlyCalls)
  intro event member
  rw [List.append_nil] at member
  exact (onlyCalls.open_of_mem event member).1

theorem not_isWrite_of_failed {calls : List Event} {cause : QueryError}
    (onlyCalls : OnlyCalls calls) {event : Event}
    (member : event ∈ (Run.failed calls cause).events) : event.isWrite ≠ true := by
  rcases List.mem_append.mp member with call | last
  · simp [onlyCalls.not_isWrite event call]
  · simp [List.mem_singleton.mp last, Event.isWrite]

theorem listens_of_opens {mapping : Mapping} {prepared : Query} {events : List Event}
    {opened : Session.Opened}
    (opens : (query.session engine consumer options mapping).Opens index prepared
      (events, .ok opened)) :
    Session.Listens (query.lookUps index ++ events) opened.progress := by
  have start : Session.Listens [] opened.progress := by
    cases opens
    exact ⟨rfl, nofun⟩
  exact start.after_calls ((query.onlyCalls_lookUps index).append opens.onlyCalls) rfl

theorem serves_of_streams {session : Session} {calls : List Event} {opened : Session.Opened}
    {streamed : Step Stop} (onlyCalls : OnlyCalls calls)
    (listens : Session.Listens calls opened.progress)
    (streams : session.Streams opened streamed) :
    (Run.after calls (session.conclude streamed)).Serves session.consumer := by
  have allowed : Allowed session.consumer.Allows [] (calls ++ streamed.events) := by
    rw [Allowed.append_iff]
    exact ⟨Session.allowed_of_calls onlyCalls, Session.allowed_of_streams streams listens⟩
  have others : ∀ event ∈ (calls ++ streamed.events) ++ (session.release streamed.progress).events,
      event.isTerminal = false := by
    intro event member
    rcases List.mem_append.mp member with before | released
    · rcases List.mem_append.mp before with call | streaming
      · exact (onlyCalls.open_of_mem event call).1
      · exact Event.isTerminal_of_isScroll_or_isWrite (streams.isScroll_or_isWrite_of_mem streaming)
    · rcases Session.eq_clear_of_mem_release released with ⟨id, rfl⟩
      rfl
  have released : ∀ event ∈ (session.release streamed.progress).events, event.isWrite = false := by
    intro event member
    rcases Session.eq_clear_of_mem_release member with ⟨id, rfl⟩
    rfl
  cases result : streamed.result with
  | error cause =>
    have ends : (Run.after calls (session.conclude streamed)).EndsBy session.consumer
        (.abort cause) := .abort (by simp [Run.after, Session.conclude, result])
    refine Run.serves_of_endsBy ?_ ends others released allowed
    simp [Run.after, Session.conclude, result]
  | ok stop =>
    cases finishes : session.consumer.finish with
    | error reason =>
      refine Run.serves_of_endsBy ?_ (.failure finishes ?_) others released allowed
      · simp [Run.after, Session.conclude, result]
      · simp [Run.after, Session.conclude, result, finishes]
    | ok finished =>
      have isOk : (Run.after calls (session.conclude streamed)).result =
          .ok (Session.outcome streamed.progress stop) := by
        simp [Run.after, Session.conclude, result, finishes]
      refine Run.serves_of_endsBy ?_ (.finish finishes isOk) others released allowed
      simp [Run.after, Session.conclude, result]

/--
The consumer of a run gets one terminal operation whatever fails, nothing after it and nothing after
a chunk that it refused, and no chunk at all unless a cursor was opened.
-/
theorem serves_of_execute {turns : Nat} {run : Run}
    (ran : query.execute engine consumer options turns index = some run) :
    run.Serves consumer ∧ ∀ event ∈ run.events, event.isWrite = true →
      ∃ mapping sql native body, query.mappingFrom engine = .ok mapping ∧
        (query.prepare mapping).toSql = .ok sql ∧ engine.explain.result = .ok native ∧
        engine.search.result = .ok body := by
  cases runs_of_execute ran with
  | unmapped fails =>
    have calls := query.onlyCalls_lookUps index
    exact ⟨serves_of_failed calls, fun event member isWrite =>
      absurd isWrite (not_isWrite_of_failed calls member)⟩
  | unopened maps fails =>
    have calls := (query.onlyCalls_lookUps index).append fails.onlyCalls
    exact ⟨serves_of_failed calls, fun event member isWrite =>
      absurd isWrite (not_isWrite_of_failed calls member)⟩
  | @streamed mapping events opened streamed maps opens streams =>
    have calls := (query.onlyCalls_lookUps index).append opens.onlyCalls
    refine ⟨serves_of_streams calls (listens_of_opens opens) streams, ?_⟩
    intro _ _ _
    cases opens with
    | @found sql native body writes explains finds =>
      exact ⟨mapping, sql, native, body, maps, writes, explains, finds⟩

/-- A consumer that takes one chunk and refuses the next. -/
theorem serves_of_second_refused :
    let consumer : Consumer := ⟨fun call => if call = 1 then .error "full" else .ok (), .ok ()⟩
    let engine := Engine.giving (Page.answer "s1" [[("a", .null)]])
      [Page.answer "s2" [[("a", .null)]], Page.answer "s3" []]
    ∃ run, ({ index := "points" } : Query).execute engine consumer {} 3 "points" = some run ∧
      run.result = .error (.io "full") ∧ run.Serves consumer := by
  intro consumer engine
  exact ⟨_, rfl, rfl,
    (@serves_of_execute { index := "points" } engine consumer {} "points" 3 _ rfl).1⟩

end Query

end SearchSql
