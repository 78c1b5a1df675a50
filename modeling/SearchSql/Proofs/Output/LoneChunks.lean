import SearchSql.Proofs.Output.Calls

/-!
# Chunks written one by one

A chunk can be written without an encoder by whoever knows whether it is the first and whether it is
the last. What cannot be known so is whether any row has gone before: a chunk that is not the first
begins with a comma, while an encoder writes one only where there is a row to separate from. The two
part with the first row of the document if that is in a later batch, and there only.

The induction is on the later batches, with the comma of the encoder as what is carried along
(`Encoder.answers_next_eq_iff`).
-/

namespace SearchSql.Encoder

/-- Rows that are encoded together, and whether there are more to come. -/
structure Batch where
  rows : List Record
  more : Bool

def Batch.call (batch : Batch) : Call := .encode batch.rows batch.more

/-- The chunk of a batch, written on its own with the settings of the encoder. -/
def loneChunk (encoder : Encoder) (first : Bool) (batch : Batch) : Except QueryError String :=
  encodeChunk encoder.format encoder.download encoder.metadata batch.rows first batch.more

variable {encoder : Encoder} {batch : Batch} {batches : List Batch}

theorem loneChunk_json (json : encoder.format ≠ .csv) (first : Bool) (batch : Batch) :
    encoder.loneChunk first batch =
      .ok ((if first then encoder.opener else "") ++ rowsText (!first) batch.rows ++
        if batch.more then "" else encoder.closer) := by
  unfold loneChunk encodeChunk
  cases format : encoder.format with
  | csv => exact absurd format json
  | json | geoJson =>
    cases first <;> simp [encode, encodeJson, opener, closer, format, Except.map]

/-- What an open encoder answers to a batch, and what it then is. -/
theorem answer_batch (json : encoder.format ≠ .csv) (isOpen : encoder.closed = false)
    (batch : Batch) :
    encoder.answer batch.call =
        .ok ((if encoder.opened then "" else encoder.opener) ++
          rowsText encoder.commaDue batch.rows ++ if batch.more then "" else encoder.closer) ∧
      encoder.next batch.call =
        { encoder with
          opened := true
          commaDue := encoder.commaDue || !batch.rows.isEmpty
          closed := !batch.more } := by
  rcases encode_of_open isOpen batch.call with ⟨chunk, encodes, answered⟩
  have isMore : (!batch.call.closes) = batch.more := Bool.not_not batch.more
  rw [isMore] at encodes
  rcases encode_json json encodes with ⟨rfl, isNext⟩
  exact ⟨answered, isNext⟩

/-- A comma before the first row makes a difference if there is a row. -/
theorem rowsText_eq_iff {commaDue : Bool} {rows : List Record} :
    rowsText commaDue rows = rowsText true rows ↔ commaDue = true ∨ rows = [] := by
  cases commaDue with
  | true => simp
  | false =>
    cases rows with
    | nil => simp [rowsText]
    | cons row rest =>
      refine iff_of_false (fun same => ?_) (by simp)
      have sameLength := congrArg String.length same
      simp only [rowsText, Bool.false_eq_true, if_false, if_true,
        String.length_append] at sameLength
      have comma : ",".length = 1 := rfl
      have nothing : "".length = 0 := rfl
      omega

/-- Where a document has been begun, a chunk on its own stands or falls with its comma. -/
theorem answer_eq_loneChunk_iff (json : encoder.format ≠ .csv) (isOpen : encoder.closed = false)
    (begun : encoder.opened = true) :
    encoder.answer batch.call = encoder.loneChunk false batch ↔
      encoder.commaDue = true ∨ batch.rows = [] := by
  rw [(answer_batch json isOpen batch).1, loneChunk_json json]
  simp only [begun, if_true, Bool.false_eq_true, if_false, Bool.not_false, Except.ok.injEq,
    String.append_left_inj, String.append_right_inj]
  exact rowsText_eq_iff

/-- The first chunk is the same on its own. -/
theorem answer_eq_loneChunk (json : encoder.format ≠ .csv) (isOpen : encoder.closed = false)
    (unopened : encoder.opened = false) (noComma : encoder.commaDue = false) (batch : Batch) :
    encoder.answer batch.call = encoder.loneChunk true batch := by
  rw [(answer_batch json isOpen batch).1, loneChunk_json json, unopened, noComma]
  rfl

theorem mapIdx_loneChunk (encoder : Encoder) (first : Batch) (later : List Batch) :
    (first :: later).mapIdx (fun position => encoder.loneChunk (position == 0)) =
      encoder.loneChunk true first :: later.map (encoder.loneChunk false) := by
  rw [List.mapIdx_cons]
  congr 1
  refine List.ext_getElem? fun position => ?_
  rw [List.getElem?_mapIdx, List.getElem?_map]
  rfl

theorem loneChunk_next (json : encoder.format ≠ .csv) (isOpen : encoder.closed = false)
    (batch : Batch) (first : Bool) :
    (encoder.next batch.call).loneChunk first = encoder.loneChunk first := by
  rw [(answer_batch json isOpen batch).2]
  rfl

/-- Later chunks are the same on their own if a row has gone before them, or if none is to come. -/
theorem answers_next_eq_iff (json : encoder.format ≠ .csv) (isOpen : encoder.closed = false)
    {first : Batch} {later : List Batch}
    (lastOnly : ∀ batch ∈ (first :: later).dropLast, batch.more = true) :
    (encoder.next first.call).answers (later.map Batch.call) =
        later.map (encoder.loneChunk false) ↔
      (encoder.commaDue = true ∨ first.rows ≠ []) ∨ ∀ batch ∈ later, batch.rows = [] := by
  induction later generalizing encoder first with
  | nil => simp [answers]
  | cons second later ih =>
    have goesOn := lastOnly first List.mem_cons_self
    have isNext := (answer_batch json isOpen first).2
    have stillJson : (encoder.next first.call).format ≠ .csv := by
      rw [isNext]
      exact json
    have stillOpen : (encoder.next first.call).closed = false := by
      rw [isNext, goesOn]
      rfl
    have comma : (encoder.next first.call).commaDue = true ↔
        encoder.commaDue = true ∨ first.rows ≠ [] := by
      simp [isNext]
    have here := @answer_eq_loneChunk_iff _ second stillJson stillOpen (by rw [isNext])
    have further := @ih (encoder.next first.call) stillJson stillOpen second
      fun batch isMember => lastOnly batch (List.mem_cons_of_mem _ isMember)
    rw [loneChunk_next json isOpen] at here further
    rw [List.map_cons, answers, List.map_cons, List.cons.injEq, here, further, comma,
      List.forall_mem_cons]
    by_cases noRows : second.rows = [] <;> simp [noRows]

/-- If only the last batch may close the document, then all of them give chunks. -/
theorem exists_chunk_of_mem_answers (json : encoder.format ≠ .csv)
    (isOpen : encoder.closed = false) (lastOnly : ∀ batch ∈ batches.dropLast, batch.more = true) :
    ∀ answer ∈ encoder.answers (batches.map Batch.call), ∃ chunk, answer = .ok chunk := by
  rcases List.eq_nil_or_concat batches with rfl | ⟨earlier, last, rfl⟩
  · nofun
  rw [List.concat_eq_append] at lastOnly ⊢
  rw [List.dropLast_concat] at lastOnly
  have noneCloses : ∀ call ∈ earlier.map Batch.call, call.closes = false := by
    intro call isCall
    rcases List.mem_map.1 isCall with ⟨batch, isBatch, rfl⟩
    simp [Batch.call, Call.closes, lastOnly batch isBatch]
  have stays := staysOpen json isOpen noneCloses
  rcases encode_of_open stays.isOpen last.call with ⟨chunk, -, answered⟩
  rw [List.map_append, answers_append, List.forall_mem_append]
  refine ⟨stays.chunks, ?_⟩
  rintro answer isAnswer
  rw [List.mem_singleton.1 isAnswer]
  exact ⟨chunk, answered⟩

/--
An encoder and a function without a memory write the same chunks if and only if the first batch has
rows or no later one has any.
-/
theorem answers_eq_loneChunks_iff {format : OutputFormat} (json : format ≠ .csv) (download : Bool)
    (metadata : Option Json) (columns : List String) {first : Batch} {later : List Batch}
    (lastOnly : ∀ batch ∈ (first :: later).dropLast, batch.more = true) :
    let answers := Encoder.answers { format, download, metadata, columns }
      ((first :: later).map Batch.call)
    (∀ answer ∈ answers, ∃ chunk, answer = .ok chunk) ∧
      (answers = (first :: later).mapIdx (fun position batch =>
          encodeChunk format download metadata batch.rows (position == 0) batch.more) ↔
        first.rows ≠ [] ∨ ∀ batch ∈ later, batch.rows = []) := by
  intro answers
  let fresh : Encoder := { format, download, metadata, columns }
  refine ⟨@exists_chunk_of_mem_answers fresh _ json rfl lastOnly, ?_⟩
  have apart := mapIdx_loneChunk fresh first later
  have atFirst : fresh.answer first.call = fresh.loneChunk true first :=
    answer_eq_loneChunk json rfl rfl rfl first
  have afterwards := @answers_next_eq_iff fresh json rfl first later lastOnly
  change fresh.answer first.call :: (fresh.next first.call).answers (later.map Batch.call) =
    (first :: later).mapIdx (fun position => fresh.loneChunk (position == 0)) ↔ _
  rw [apart, List.cons.injEq, atFirst, afterwards]
  simp [fresh]

/-- Batches without rows before the first row: the comma of the last chunk is too much. -/
theorem answers_ne_loneChunks_of_late_row :
    let first : Batch := ⟨[], true⟩
    let later : List Batch := [⟨[], true⟩, ⟨[[("a", .null)], []], false⟩]
    (OutputFormat.geoJson ≠ .csv ∧ ∀ batch ∈ (first :: later).dropLast, batch.more = true) ∧
      Encoder.answers { format := .geoJson } ((first :: later).map Batch.call) ≠
        (first :: later).mapIdx fun position batch =>
          encodeChunk .geoJson false none batch.rows (position == 0) batch.more := by
  intro first later
  have lastOnly : ∀ batch ∈ (first :: later).dropLast, batch.more = true := by
    simp [first, later]
  refine ⟨⟨by decide, lastOnly⟩, ?_⟩
  have behaves := answers_eq_loneChunks_iff (by decide : OutputFormat.geoJson ≠ .csv) false none []
    lastOnly
  rw [ne_eq, behaves.2]
  simp [first, later]

end SearchSql.Encoder
