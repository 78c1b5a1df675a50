import SearchSql.Output.Csv

/-!
# Reading CSV documents

A reader takes a document character by character. Inside quotes every character belongs to the
field, and a quote is written twice; outside of them a comma ends the field and a line feed the
record. What stands in no CSV document is refused: a quote in the middle of a bare field, a carriage
return outside of quotes, and anything but the end of the field behind a closing quote.

The main statement is `records?_document`: the reader gets back the table that `Csv.document` was
made from. Each record takes the reader from the start of a record to the start of the next, so that
it does not matter where a document was cut into chunks.
-/

namespace SearchSql.Csv

/-- Where a reader stands in a field. -/
inductive Place
  | start
  | bare
  | quoted
  /-- Behind a quote that either ends the field or is the first of two. -/
  | quote

/-- What was read so far: whole records, and as much as there is of the next one. -/
structure Reading where
  records : List (List String) := []
  fields : List String := []
  text : List Char := []
  place : Place := .start

namespace Reading

def push (reading : Reading) (c : Char) (place : Place) : Reading :=
  { reading with text := reading.text ++ [c], place }

def endField (reading : Reading) : Reading :=
  { reading with
    fields := reading.fields ++ [String.ofList reading.text]
    text := []
    place := .start }

def endRecord (reading : Reading) : Reading :=
  { records := reading.records ++ [reading.endField.fields] }

def step (reading : Reading) (c : Char) : Option Reading :=
  match reading.place, c with
  | .quoted, '"' => some { reading with place := .quote }
  | .quoted, c => some (reading.push c .quoted)
  | _, ',' => some reading.endField
  | _, '\n' => some reading.endRecord
  | .start, '"' => some { reading with place := .quoted }
  | .quote, '"' => some (reading.push '"' .quoted)
  | .bare, '"' => none
  | .quote, _ => none
  | _, '\r' => none
  | _, c => some (reading.push c .bare)

/-- The records of a document that ends here; the last one may lack its line feed. -/
def finish (reading : Reading) : Option (List (List String)) :=
  match reading.place with
  | .quoted => none
  | .start => some (if reading.fields.isEmpty then reading.records else reading.endRecord.records)
  | _ => some reading.endRecord.records

end Reading

/-- The records of a CSV document; `none` if the text is not one. -/
def records? (document : String) : Option (List (List String)) :=
  (document.toList.foldlM Reading.step {}).bind Reading.finish

/-- What a reader sees of a record: one without fields looks like one with an empty field. -/
def shown (texts : List String) : List String := if texts.isEmpty then [""] else texts

/-- The records of some rows under a header of columns; without rows there is no header either. -/
def table (columns : List String) (rows : List Record) : List (List String) :=
  if rows.isEmpty then [] else shown columns :: rows.map fun row => shown (cells columns row)

/-- The document of some rows under a header of columns. -/
def document (columns : List String) (rows : List Record) : String :=
  if rows.isEmpty then ""
  else recordText columns ++ String.join (rows.map fun row => recordText (cells columns row))

/-- All records of a table are as long as its header. -/
theorem length_of_mem_table {columns : List String} {rows : List Record} {record : List String}
    (member : record ∈ table columns rows) : record.length = (shown columns).length := by
  unfold table at member
  split at member
  · cases member
  rcases List.mem_cons.mp member with rfl | isRow
  · rfl
  · rcases List.mem_map.mp isRow with ⟨row, -, rfl⟩
    cases columns <;> simp [shown, cells]

theorem table_of_named {columns : List String} (named : columns ≠ []) (rows : List Record) :
    table columns rows = if rows.isEmpty then [] else columns :: rows.map (cells columns) := by
  have someCells : ∀ row, cells columns row ≠ [] := by simp [cells, named]
  simp [table, shown, named, someCells]

section Reader

variable {records : List (List String)} {done : List String}

theorem step_bare {place : Place} (outside : place = .start ∨ place = .bare) {c : Char}
    (isPlain : needsQuotes c = false) (text : List Char) :
    Reading.step ⟨records, done, text, place⟩ c =
      some ⟨records, done, text ++ [c], .bare⟩ := by
  simp only [needsQuotes, Bool.or_eq_false_iff, beq_eq_false_iff_ne] at isPlain
  rcases isPlain with ⟨⟨⟨noComma, noQuote⟩, noReturn⟩, noFeed⟩
  rcases outside with rfl | rfl <;>
    simp [Reading.step, Reading.push, noQuote]

theorem foldlM_bare {more : List Char} (plain : ∀ c ∈ more, needsQuotes c = false)
    (text : List Char) :
    more.foldlM Reading.step ⟨records, done, text, .bare⟩ =
      some ⟨records, done, text ++ more, .bare⟩ := by
  induction more generalizing text with
  | nil => simp
  | cons c more ih =>
    rcases List.forall_mem_cons.mp plain with ⟨here, later⟩
    rw [List.foldlM_cons, step_bare (.inr rfl) here, Option.bind_eq_bind, Option.bind_some,
      ih later, List.append_assoc, List.singleton_append]

theorem foldlM_doubleQuotes (text more : List Char) :
    (doubleQuotes more).foldlM Reading.step ⟨records, done, text, .quoted⟩ =
      some ⟨records, done, text ++ more, .quoted⟩ := by
  induction more generalizing text with
  | nil => simp [doubleQuotes]
  | cons c more ih =>
    by_cases isQuote : c = '"'
    · subst isQuote
      simp [doubleQuotes, Reading.step, Reading.push, ih]
    · simp [doubleQuotes, isQuote, Reading.step, Reading.push, ih]

/-- Behind a field the reader has its text, and is not within quotes. -/
theorem foldlM_field (text : List Char) :
    ∃ place, place ≠ .quoted ∧
      (field text).foldlM Reading.step ⟨records, done, [], .start⟩ =
        some ⟨records, done, text, place⟩ := by
  unfold field
  split
  · refine ⟨.quote, nofun, ?_⟩
    have opens : Reading.step ⟨records, done, [], .start⟩ '"' =
        some ⟨records, done, [], .quoted⟩ := rfl
    have closes : Reading.step ⟨records, done, text, .quoted⟩ '"' =
        some ⟨records, done, text, .quote⟩ := rfl
    simp [List.foldlM_append, opens, foldlM_doubleQuotes, closes]
  next plain =>
    simp only [List.any_eq_true, not_exists, not_and, Bool.not_eq_true] at plain
    cases text with
    | nil => exact ⟨.start, nofun, rfl⟩
    | cons c more =>
      rcases List.forall_mem_cons.mp plain with ⟨here, later⟩
      refine ⟨.bare, nofun, ?_⟩
      rw [List.foldlM_cons, step_bare (.inl rfl) here, Option.bind_eq_bind, Option.bind_some,
        foldlM_bare later]
      rfl

theorem step_comma {place : Place} (outside : place ≠ .quoted) (text : List Char) :
    Reading.step ⟨records, done, text, place⟩ ',' =
      some { records, fields := done ++ [String.ofList text] } := by
  cases place with
  | quoted => exact absurd rfl outside
  | start | bare | quote => rfl

theorem step_feed {place : Place} (outside : place ≠ .quoted) (text : List Char) :
    Reading.step ⟨records, done, text, place⟩ '\n' =
      some { records := records ++ [done ++ [String.ofList text]] } := by
  cases place with
  | quoted => exact absurd rfl outside
  | start | bare | quote => rfl

theorem foldlM_fields (first : List Char) (others : List (List Char)) :
    (fields (first :: others) ++ ['\n']).foldlM Reading.step { records, fields := done } =
      some { records := records ++ [done ++ (first :: others).map String.ofList] } := by
  induction others generalizing first done with
  | nil =>
    rcases @foldlM_field records done first with ⟨place, outside, reads⟩
    rw [fields, List.foldlM_append, reads]
    simp [step_feed outside]
  | cons next others ih =>
    rcases @foldlM_field records done first with ⟨place, outside, reads⟩
    rw [fields, List.append_assoc, List.foldlM_append, reads, List.cons_append]
    · simp only [Option.bind_eq_bind, Option.bind_some, List.foldlM_cons, step_comma outside, ih]
      simp
    · exact List.cons_ne_nil _ _

theorem field_eq_nil_iff {text : List Char} : field text = [] ↔ text = [] := by
  cases text with
  | nil => simp [field]
  | cons c more =>
    unfold field
    split <;> simp

theorem fields_eq_nil_iff {texts : List (List Char)} :
    fields texts = [] ↔ texts = [] ∨ texts = [[]] := by
  match texts with
  | [] => simp [fields]
  | [text] => simp [fields, field_eq_nil_iff]
  | text :: next :: more => simp [fields]

/-- A record takes the reader from the start of one record to the start of the next. -/
theorem foldlM_recordText (texts : List String) :
    (recordText texts).toList.foldlM Reading.step { records } =
      some { records := records ++ [shown texts] } := by
  rw [recordText, String.toList_ofList, record]
  by_cases isBlank : fields (texts.map String.toList) = []
  · -- an empty line is written as an empty quoted field
    have shows : shown texts = [""] := by
      rcases fields_eq_nil_iff.mp isBlank with none | single
      · rw [List.map_eq_nil_iff.mp none]
        rfl
      · rcases List.map_eq_singleton_iff.mp single with ⟨text, rfl, noText⟩
        rw [String.toList_eq_nil_iff.mp noText]
        rfl
    rw [isBlank, shows]
    rfl
  · cases texts with
    | nil => exact absurd rfl isBlank
    | cons first others =>
      simp only [List.isEmpty_iff, isBlank, if_false]
      rw [List.map_cons, foldlM_fields]
      simp [shown]

theorem foldlM_recordTexts (texts : List (List String)) :
    (String.join (texts.map recordText)).toList.foldlM Reading.step { records } =
      some { records := records ++ texts.map shown } := by
  induction texts generalizing records with
  | nil => simp
  | cons first others ih =>
    simp only [List.map_cons, String.join_cons, String.toList_append, List.foldlM_append,
      foldlM_recordText, Option.bind_eq_bind, Option.bind_some, ih]
    simp

end Reader

/-- Reading undoes writing. -/
theorem records?_document (columns : List String) (rows : List Record) :
    records? (document columns rows) = some (table columns rows) := by
  cases rows with
  | nil => rfl
  | cons row more =>
    have written : document columns (row :: more) =
        String.join ((columns :: (row :: more).map (cells columns)).map recordText) := by
      simp [document, Function.comp_def]
    rw [records?, written, foldlM_recordTexts]
    simp [Reading.finish, table]

end SearchSql.Csv
