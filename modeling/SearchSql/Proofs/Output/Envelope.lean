import SearchSql.Output.Encoder

/-!
# JSON documents in chunks

An encoder that is open owes the rest of a document. `Encoder.remaining` is what it owes when some
rows are still to come: an open chunk pays a part of it, and the closing chunk pays all.
-/

namespace SearchSql

/-- The whole document of some rows. -/
def envelope (format : OutputFormat) (download : Bool) (metadata : Option Json)
    (rows : List Record) : String :=
  (match format with
    | .geoJson => "\x7b\"data\":[\x7b\"type\":\"FeatureCollection\",\"features\":["
    | _ => "\x7b\"data\":[") ++
  ",".intercalate (rows.map fun row => (Json.object row).compact) ++
  (match format with
    | .geoJson => "]\x7d]"
    | _ => "]") ++
  (if download then "" else ",\"meta\":" ++ (metadata.getD (.object [])).compact) ++ "\x7d"

namespace Encoder

/-- What is still to be written when these rows are all that is to come. -/
def remaining (encoder : Encoder) (rows : List Record) : String :=
  (if encoder.opened then "" else encoder.opener) ++ rowsText encoder.commaDue rows ++
    encoder.closer

theorem rowsText_append (commaDue : Bool) (first second : List Record) :
    rowsText commaDue (first ++ second) =
      rowsText commaDue first ++ rowsText (commaDue || !first.isEmpty) second := by
  induction first generalizing commaDue with
  | nil => simp [rowsText]
  | cons row rest ih => simp [rowsText, ih, String.append_assoc]

theorem rowsText_true (row : Record) (rest : List Record) :
    rowsText true (row :: rest) =
      "," ++ ",".intercalate ((row :: rest).map fun row => (Json.object row).compact) := by
  induction rest generalizing row with
  | nil => simp [rowsText]
  | cons next rest ih =>
    rw [rowsText, ih]
    simp [String.append_assoc]

theorem rowsText_false (rows : List Record) :
    rowsText false rows = ",".intercalate (rows.map fun row => (Json.object row).compact) := by
  cases rows with
  | nil => rfl
  | cons row rest =>
    cases rest with
    | nil => simp [rowsText]
    | cons next rest =>
      rw [rowsText, rowsText_true]
      simp [String.append_assoc]

theorem remaining_fresh (format : OutputFormat) (download : Bool) (metadata : Option Json)
    (columns : List String) (rows : List Record) :
    Encoder.remaining { format, download, metadata, columns } rows =
      envelope format download metadata rows := by
  unfold remaining envelope opener closer
  cases format <;>
    simp only [rowsText_false, Bool.false_eq_true, if_false, String.append_assoc]

theorem exists_encode {encoder : Encoder} (isOpen : encoder.closed = false)
    (rows : List Record) (more : Bool) :
    ∃ chunk next, encoder.encode rows more = .ok (chunk, next) := by
  simp only [encode, isOpen]
  exact ⟨_, _, rfl⟩

/-- Only an open encoder encodes, and it is closed by the batch after which there is no more. -/
theorem closed_of_encode {encoder next : Encoder} {rows : List Record} {more : Bool}
    {chunk : String} (encodes : encoder.encode rows more = .ok (chunk, next)) :
    encoder.closed = false ∧ next.closed = !more := by
  cases isClosed : encoder.closed with
  | true => simp [encode, isClosed] at encodes
  | false =>
    simp only [encode, isClosed, Bool.false_eq_true, if_false, Except.ok.injEq,
      Prod.mk.injEq] at encodes
    exact ⟨rfl, by rw [← encodes.2]⟩

/-- The settings of an encoder stay as they are. -/
theorem settings_of_encode {encoder next : Encoder} {rows : List Record} {more : Bool}
    {chunk : String} (encodes : encoder.encode rows more = .ok (chunk, next)) :
    next.format = encoder.format ∧ next.download = encoder.download ∧
      next.metadata = encoder.metadata := by
  have isOpen := (closed_of_encode encodes).1
  cases format : encoder.format <;>
    simp only [encode, isOpen, format, Bool.false_eq_true, if_false, Except.ok.injEq,
      Prod.mk.injEq] at encodes
  · simp [← encodes.2, encodeJson, format]
  · simp [← encodes.2, encodeJson, format]
  · rw [← encodes.2]
    unfold encodeCsv
    split <;> simp [format]

variable {encoder next : Encoder} {rows : List Record} {chunk : String}

theorem encode_json (json : encoder.format ≠ .csv) {more : Bool}
    (encodes : encoder.encode rows more = .ok (chunk, next)) :
    chunk = (if encoder.opened then "" else encoder.opener) ++ rowsText encoder.commaDue rows ++
        (if more then "" else encoder.closer) ∧
      next = { encoder with
        opened := true
        commaDue := encoder.commaDue || !rows.isEmpty
        closed := !more } := by
  have isOpen := (closed_of_encode encodes).1
  cases format : encoder.format with
  | csv => exact absurd format json
  | json =>
    simp only [encode, isOpen, format, encodeJson, Bool.false_eq_true, if_false, Except.ok.injEq,
      Prod.mk.injEq] at encodes
    exact ⟨encodes.1.symm, encodes.2.symm⟩
  | geoJson =>
    simp only [encode, isOpen, format, encodeJson, Bool.false_eq_true, if_false, Except.ok.injEq,
      Prod.mk.injEq] at encodes
    exact ⟨encodes.1.symm, encodes.2.symm⟩

/-- A chunk that leaves the document open pays for its rows. -/
theorem append_remaining_of_encode (json : encoder.format ≠ .csv)
    (encodes : encoder.encode rows true = .ok (chunk, next)) (later : List Record) :
    chunk ++ next.remaining later = encoder.remaining (rows ++ later) := by
  rcases encode_json json encodes with ⟨rfl, rfl⟩
  simp [remaining, rowsText_append, closer, String.append_assoc]

/-- The closing chunk pays for everything. -/
theorem eq_remaining_of_encode (json : encoder.format ≠ .csv)
    (encodes : encoder.encode rows false = .ok (chunk, next)) :
    chunk = encoder.remaining rows := by
  rcases encode_json json encodes with ⟨rfl, rfl⟩
  rfl

end Encoder

end SearchSql
