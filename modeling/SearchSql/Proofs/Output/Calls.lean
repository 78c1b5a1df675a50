import SearchSql.Proofs.Output.Envelope

/-!
# Encoders under any sequence of calls

Whoever holds an encoder may encode batches and finish in any order. For JSON and GeoJSON the chunks
of an encoder are always a front part of one document: of all rows given so far while no call has
closed it, and the whole of it from the first closing call on, after which nothing changes any more.

The induction is on the calls, with `Encoder.remaining` as what an open encoder still owes: a call
that leaves the document open pays for its rows, whichever rows are still to come.
-/

namespace SearchSql.Encoder

/-- Something that is asked of an encoder. -/
inductive Call
  | encode (rows : List Record) (more : Bool)
  | finish

namespace Call

/-- Whether the call asks for the end of the document. -/
def closes : Call → Bool
  | encode _ more => !more
  | finish => true

def rows : Call → List Record
  | encode rows _ => rows
  | finish => []

/-- The answer to the call once the document is closed. -/
def refusal : Call → Except QueryError String
  | encode .. => .error .envelopeClosed
  | finish => .ok ""

end Call

def perform (encoder : Encoder) : Call → Except QueryError (String × Encoder)
  | .encode rows more => encoder.encode rows more
  | .finish => encoder.finish

/-- What the encoder answers to a call: a chunk, or why there is none. -/
def answer (encoder : Encoder) (call : Call) : Except QueryError String :=
  (encoder.perform call).map (·.1)

/-- The encoder after a call; one that fails leaves it as it was. -/
def next (encoder : Encoder) (call : Call) : Encoder :=
  match encoder.perform call with
  | .ok (_, next) => next
  | .error _ => encoder

/-- The answers to some calls, one after the other. -/
def answers (encoder : Encoder) : List Call → List (Except QueryError String)
  | [] => []
  | call :: later => encoder.answer call :: (encoder.next call).answers later

/-- The encoder after some calls. -/
def after (encoder : Encoder) (calls : List Call) : Encoder := calls.foldl next encoder

/-- The chunks among some answers, put together. -/
def written : List (Except QueryError String) → String
  | [] => ""
  | .ok chunk :: later => chunk ++ written later
  | .error _ :: later => written later

/-- A document of some rows that is still open. -/
def openText (format : OutputFormat) (rows : List Record) : String :=
  (match format with
    | .geoJson => "\x7b\"data\":[\x7b\"type\":\"FeatureCollection\",\"features\":["
    | _ => "\x7b\"data\":[") ++
  ",".intercalate (rows.map fun row => (Json.object row).compact)

theorem envelope_eq_openText (format : OutputFormat) (download : Bool) (metadata : Option Json)
    (columns : List String) (rows : List Record) :
    envelope format download metadata rows =
      openText format rows ++ closer { format, download, metadata, columns } := by
  unfold envelope openText closer
  cases format <;> simp only [String.append_assoc]

theorem answers_append (encoder : Encoder) (first second : List Call) :
    encoder.answers (first ++ second) =
      encoder.answers first ++ (encoder.after first).answers second := by
  induction first generalizing encoder with
  | nil => rfl
  | cons call first ih =>
    simp only [List.cons_append, answers, ih]
    rfl

theorem after_append (encoder : Encoder) (first second : List Call) :
    encoder.after (first ++ second) = (encoder.after first).after second :=
  List.foldl_append

theorem written_append (first second : List (Except QueryError String)) :
    written (first ++ second) = written first ++ written second := by
  induction first with
  | nil => simp [written]
  | cons answer first ih => cases answer <;> simp [written, ih, String.append_assoc]

theorem written_refusals (calls : List Call) : written (calls.map Call.refusal) = "" := by
  induction calls with
  | nil => rfl
  | cons call calls ih => cases call <;> simp [written, Call.refusal, ih]

section Closed

variable {encoder : Encoder}

theorem answer_of_closed (isClosed : encoder.closed = true) (call : Call) :
    encoder.answer call = call.refusal := by
  cases call <;> simp [answer, perform, encode, finish, isClosed, Call.refusal, Except.map]

theorem next_of_closed (isClosed : encoder.closed = true) (call : Call) :
    encoder.next call = encoder := by
  cases call <;> simp [next, perform, encode, finish, isClosed]

theorem after_of_closed (isClosed : encoder.closed = true) (calls : List Call) :
    encoder.after calls = encoder := by
  induction calls with
  | nil => rfl
  | cons call calls ih =>
    rw [after, List.foldl_cons, next_of_closed isClosed]
    exact ih

theorem answers_of_closed (isClosed : encoder.closed = true) (calls : List Call) :
    encoder.answers calls = calls.map Call.refusal := by
  induction calls with
  | nil => rfl
  | cons call calls ih =>
    rw [answers, answer_of_closed isClosed, next_of_closed isClosed, ih, List.map_cons]

end Closed

/-- An open encoder answers every call, as it answers a batch of the rows of the call. -/
theorem encode_of_open {encoder : Encoder} (isOpen : encoder.closed = false) (call : Call) :
    ∃ chunk, encoder.encode call.rows (!call.closes) = .ok (chunk, encoder.next call) ∧
      encoder.answer call = .ok chunk := by
  rcases exists_encode isOpen call.rows (!call.closes) with ⟨chunk, next, encodes⟩
  have performs : encoder.perform call = .ok (chunk, next) := by
    cases call with
    | encode rows more => simpa [perform, Call.rows, Call.closes] using encodes
    | finish => simpa [perform, finish, isOpen, Call.rows, Call.closes] using encodes
  refine ⟨chunk, ?_, ?_⟩
  · rw [encodes, Encoder.next, performs]
  · rw [answer, performs]
    rfl

/-- What is known of an encoder after calls of which none closes the document. -/
structure StaysOpen (encoder : Encoder) (calls : List Call) : Prop where
  chunks : ∀ answer ∈ encoder.answers calls, ∃ chunk, answer = .ok chunk
  isOpen : (encoder.after calls).closed = false
  settings : (encoder.after calls).format = encoder.format ∧
    (encoder.after calls).download = encoder.download ∧
    (encoder.after calls).metadata = encoder.metadata
  opened : (encoder.after calls).opened = (encoder.opened || !calls.isEmpty)
  /-- What was written and what is still owed make up the whole. -/
  pays : ∀ later, written (encoder.answers calls) ++ (encoder.after calls).remaining later =
    encoder.remaining (calls.flatMap Call.rows ++ later)

theorem staysOpen {encoder : Encoder} (json : encoder.format ≠ .csv)
    (isOpen : encoder.closed = false) {calls : List Call}
    (noneCloses : ∀ call ∈ calls, call.closes = false) : encoder.StaysOpen calls := by
  induction calls generalizing encoder with
  | nil => exact ⟨nofun, isOpen, ⟨rfl, rfl, rfl⟩, by simp [after], fun later => by
      simp [answers, written, after]⟩
  | cons call calls ih =>
    rcases encode_of_open isOpen call with ⟨chunk, encodes, answered⟩
    rw [noneCloses call List.mem_cons_self, Bool.not_false] at encodes
    rcases settings_of_encode encodes with ⟨format, download, metadata⟩
    have rest := @ih (encoder.next call) (by rw [format]; exact json)
      (closed_of_encode encodes).2 fun call member => noneCloses call (List.mem_cons_of_mem _ member)
    refine ⟨?_, rest.isOpen, ?_, ?_, fun later => ?_⟩
    · rw [answers, List.forall_mem_cons]
      exact ⟨⟨chunk, answered⟩, rest.chunks⟩
    · rw [← format, ← download, ← metadata]
      exact rest.settings
    · refine rest.opened.trans ?_
      rw [(encode_json json encodes).2]
      simp
    · rw [answers, answered, written, String.append_assoc, List.flatMap_cons, List.append_assoc,
        ← append_remaining_of_encode json encodes, ← rest.pays later]
      rfl

/-- The chunks of calls of which none closes the document are the document so far. -/
theorem written_of_open {format : OutputFormat} (json : format ≠ .csv) (download : Bool)
    (metadata : Option Json) (columns : List String) {calls : List Call}
    (noneCloses : ∀ call ∈ calls, call.closes = false) :
    let fresh : Encoder := { format, download, metadata, columns }
    written (fresh.answers calls) =
      if calls.isEmpty then "" else openText format (calls.flatMap Call.rows) := by
  intro fresh
  have staysOpen := @staysOpen fresh json rfl calls noneCloses
  cases calls with
  | nil => rfl
  | cons call calls =>
    -- no further rows are owed, so the rest of the document is what closes it
    have pays := staysOpen.pays []
    rw [List.append_nil, remaining, staysOpen.opened, remaining_fresh] at pays
    have ending : (fresh.after (call :: calls)).closer = fresh.closer := by
      simp only [closer, staysOpen.settings]
    rw [envelope_eq_openText format download metadata columns, ending] at pays
    refine (String.append_left_inj fresh.closer).mp (Eq.trans ?_ pays)
    simp [rowsText]

/-- What a first closing call leaves: a whole document, and an encoder that stays closed. -/
theorem closed_of_first {encoder : Encoder} (json : encoder.format ≠ .csv)
    (isOpen : encoder.closed = false) {calls : List Call}
    (noneCloses : ∀ call ∈ calls, call.closes = false) {closing : Call}
    (closes : closing.closes = true) :
    (∃ chunk, (encoder.after calls).answer closing = .ok chunk ∧
      written (encoder.answers calls) ++ chunk =
        encoder.remaining (calls.flatMap Call.rows ++ closing.rows)) ∧
    ((encoder.after calls).next closing).closed = true := by
  have staysOpen := staysOpen json isOpen noneCloses
  rcases encode_of_open staysOpen.isOpen closing with ⟨chunk, encodes, answered⟩
  rw [closes, Bool.not_true] at encodes
  have stillJson : (encoder.after calls).format ≠ .csv := by
    rw [staysOpen.settings.1]
    exact json
  refine ⟨⟨chunk, answered, ?_⟩, (closed_of_encode encodes).2⟩
  rw [eq_remaining_of_encode stillJson encodes, staysOpen.pays]

/--
Before any closing call every call gives a chunk, and the chunks are the document so far. With the
first closing call they are the whole document. From then on the encoder stays as it is: finishing
gives nothing more, and encoding fails.
-/
theorem written_of_calls {format : OutputFormat} (json : format ≠ .csv) (download : Bool)
    (metadata : Option Json) (columns : List String) {calls : List Call}
    (noneCloses : ∀ call ∈ calls, call.closes = false) :
    let fresh : Encoder := { format, download, metadata, columns }
    ((∀ answer ∈ fresh.answers calls, ∃ chunk, answer = .ok chunk) ∧
      written (fresh.answers calls) =
        (if calls.isEmpty then "" else openText format (calls.flatMap Call.rows)) ∧
      (fresh.after calls).closed = false) ∧
    ∀ (closing : Call) (later : List Call), closing.closes = true →
      (∃ chunk, fresh.answers (calls ++ closing :: later) =
        fresh.answers calls ++ .ok chunk :: later.map Call.refusal) ∧
      written (fresh.answers (calls ++ closing :: later)) =
        envelope format download metadata (calls.flatMap Call.rows ++ closing.rows) ∧
      fresh.after (calls ++ closing :: later) = fresh.after (calls ++ [closing]) ∧
      (fresh.after (calls ++ closing :: later)).closed = true := by
  intro fresh
  have staysOpen := @staysOpen fresh json rfl calls noneCloses
  refine ⟨⟨staysOpen.chunks, written_of_open json download metadata columns noneCloses,
    staysOpen.isOpen⟩, fun closing later closes => ?_⟩
  rcases @closed_of_first fresh json rfl calls noneCloses closing closes with
    ⟨⟨chunk, answered, whole⟩, isClosed⟩
  have all : fresh.answers (calls ++ closing :: later) =
      fresh.answers calls ++ .ok chunk :: later.map Call.refusal := by
    rw [answers_append, answers, answered, answers_of_closed isClosed]
  have unchanged : fresh.after (calls ++ closing :: later) = (fresh.after calls).next closing := by
    rw [after_append, after, List.foldl_cons]
    exact after_of_closed isClosed later
  refine ⟨⟨chunk, all⟩, ?_, ?_, ?_⟩
  · rw [all, written_append, written, written_refusals, String.append_empty, whole, remaining_fresh]
  · rw [unchanged, after_append]
    rfl
  · rw [unchanged]
    exact isClosed

/-- Batches of no rows first, in the middle and last, and calls after the document is closed. -/
theorem written_of_empty_batches :
    let calls : List Call := [.encode [] true, .encode [[("a", .null)]] true, .encode [] true,
      .encode [[("b", .null)], []] true]
    let later : List Call := [.finish, .encode [[("c", .null)]] true, .finish]
    let encoder : Encoder := { format := .geoJson, metadata := some (.bool true) }
    (OutputFormat.geoJson ≠ .csv ∧ (∀ call ∈ calls, call.closes = false) ∧
      Call.finish.closes = true) ∧
    written (encoder.answers (calls ++ .finish :: later)) =
      envelope .geoJson false (some (.bool true)) [[("a", .null)], [("b", .null)], []] ∧
    (∃ chunk, encoder.answers (calls ++ .finish :: later) =
      encoder.answers calls ++ [.ok chunk, .ok "", .error .envelopeClosed, .ok ""]) := by
  intro calls later encoder
  have noneCloses : ∀ call ∈ calls, call.closes = false := by
    simp [calls, Call.closes]
  have behaves := (written_of_calls (by decide : OutputFormat.geoJson ≠ .csv) false
    (some (.bool true)) [] noneCloses).2 .finish later rfl
  exact ⟨⟨by decide, noneCloses, rfl⟩, behaves.2.1, behaves.1⟩

end SearchSql.Encoder
