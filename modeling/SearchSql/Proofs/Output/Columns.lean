import SearchSql.Proofs.Output.Calls
import SearchSql.Proofs.Output.Records

/-!
# The columns of CSV documents

A CSV encoder whose columns are known lays out every row by them, whatever the batches are: the
document can be read back into a header and the cells of all rows (`records?_written`). An encoder
without columns takes those of the first batch that has rows and is from then on like one that had
them from the start, provided that the batch names a column at all. A first batch of rows without
members leaves an empty header behind and the columns undecided, so that a later batch may still
change the layout; `isRectangular_iff` says that nothing else can go wrong.

Everything is an induction on the calls. `Encoder.csvText` is what an encoder writes for rows that
leave its columns as they are.
-/

namespace SearchSql.Encoder

/-- The calls that are carried out: those up to the first that closes the document. -/
def taken : List Call → List Call
  | [] => []
  | call :: later => call :: if call.closes then [] else taken later

def takenRows (calls : List Call) : List Record := (taken calls).flatMap Call.rows

/-- The columns of an encoder after a batch. -/
def columnsWith (encoder : Encoder) (rows : List Record) : List String :=
  if encoder.columns.isEmpty then Csv.columnsOf rows else encoder.columns

/-- The text of rows under the columns of the encoder, with the header if it is still to come. -/
def csvText (encoder : Encoder) (rows : List Record) : String :=
  if rows.isEmpty then ""
  else
    (if encoder.headerWritten then "" else Csv.recordText encoder.columns) ++
      String.join (rows.map fun row => Csv.recordText (Csv.cells encoder.columns row))

theorem csvText_fresh (download : Bool) (metadata : Option Json) (columns : List String)
    (rows : List Record) :
    csvText { format := .csv, download, metadata, columns } rows = Csv.document columns rows := rfl

/-- Nothing is lost as long as only the last call closes the document. -/
theorem taken_of_dropLast {calls : List Call}
    (noneCloses : ∀ call ∈ calls.dropLast, call.closes = false) : taken calls = calls := by
  induction calls with
  | nil => rfl
  | cons call later ih =>
    cases later with
    | nil => simp [taken]
    | cons next more =>
      rw [List.dropLast_cons_cons, List.forall_mem_cons] at noneCloses
      rw [taken, noneCloses.1, ih noneCloses.2]
      rfl

theorem takenRows_cons (call : Call) (later : List Call) :
    takenRows (call :: later) = call.rows ++ if call.closes then [] else takenRows later := by
  cases closes : call.closes <;> simp [takenRows, taken, closes]

theorem takenRows_prefix_append (before later : List Call) :
    takenRows before <+: takenRows (before ++ later) := by
  induction before with
  | nil => exact List.nil_prefix
  | cons call before ih =>
    rw [List.cons_append, takenRows_cons, takenRows_cons]
    cases call.closes with
    | true => exact List.prefix_rfl
    | false => exact (List.prefix_append_right_inj _).mpr ih

section Batch

variable {encoder next : Encoder} {rows : List Record} {more : Bool} {chunk : String}

theorem columnsWith_of_named (named : encoder.columns ≠ []) (rows : List Record) :
    encoder.columnsWith rows = encoder.columns := by
  simp [columnsWith, named]

theorem columnsWith_of_unnamed (unnamed : encoder.columns = []) (rows : List Record) :
    encoder.columnsWith rows = Csv.columnsOf rows := by
  simp [columnsWith, unnamed]

/-- A batch is written under the columns that the encoder has with it. -/
theorem encode_csv (csv : encoder.format = .csv)
    (encodes : encoder.encode rows more = .ok (chunk, next)) :
    chunk = csvText { encoder with columns := encoder.columnsWith rows } rows ∧
      next = { encoder with
        columns := encoder.columnsWith rows
        headerWritten := encoder.headerWritten || !rows.isEmpty
        closed := !more } := by
  have isOpen := (closed_of_encode encodes).1
  simp only [encode, isOpen, csv, Bool.false_eq_true, if_false, Except.ok.injEq,
    Prod.mk.injEq] at encodes
  rcases encodes with ⟨rfl, rfl⟩
  cases rows with
  | nil =>
    have same : encoder.columnsWith [] = encoder.columns := by
      cases columns : encoder.columns <;> simp [columnsWith, columns, Csv.columnsOf]
    simp [encodeCsv, csvText, same]
  | cons row rest => simp [encodeCsv, csvText, columnsWith]

/-- Rows that leave the columns as they are may be written in one batch or in several. -/
theorem append_csvText_of_encode (csv : encoder.format = .csv)
    (encodes : encoder.encode rows more = .ok (chunk, next))
    (settled : encoder.columnsWith rows = encoder.columns) (later : List Record) :
    chunk ++ next.csvText later = encoder.csvText (rows ++ later) := by
  rcases encode_csv csv encodes with ⟨rfl, rfl⟩
  rw [settled]
  cases rows with
  | nil => simp [csvText]
  | cons row rest => cases later <;> simp [csvText, String.append_assoc]

/-- An encoder takes a batch like one that had the columns from the start. -/
theorem encode_columnsWith (csv : encoder.format = .csv) (rows : List Record) (more : Bool) :
    encode { encoder with columns := encoder.columnsWith rows } rows more =
      encoder.encode rows more := by
  cases columns : encoder.columns with
  | cons first others =>
    have same : encoder.columnsWith rows = encoder.columns :=
      columnsWith_of_named (by simp [columns]) rows
    rw [same]
  | nil =>
    cases rows with
    | nil => simp [columnsWith, columns, Csv.columnsOf, encode, csv, encodeCsv]
    | cons row rest => simp [columnsWith, columns, encode, csv, encodeCsv]

end Batch

section Settled

variable {encoder : Encoder}

/-- Batches that leave the columns as they are come out as one. -/
theorem written_of_settled (csv : encoder.format = .csv) (isOpen : encoder.closed = false)
    {calls : List Call}
    (settled : ∀ call ∈ taken calls, encoder.columnsWith call.rows = encoder.columns) :
    written (encoder.answers calls) = encoder.csvText (takenRows calls) ∧
      (encoder.after calls).columns = encoder.columns := by
  induction calls generalizing encoder with
  | nil => exact ⟨rfl, rfl⟩
  | cons call later ih =>
    rw [taken, List.forall_mem_cons] at settled
    rcases settled with ⟨here, rest⟩
    rcases encode_of_open isOpen call with ⟨chunk, encodes, answered⟩
    have isNext := (encode_csv csv encodes).2
    rw [here] at isNext
    have columns : (encoder.next call).columns = encoder.columns := by rw [isNext]
    rw [answers, answered, written, takenRows_cons, ← append_csvText_of_encode csv encodes here,
      after, List.foldl_cons, ← after, ← columns]
    cases closes : call.closes with
    | true =>
      have isClosed : (encoder.next call).closed = true := by rw [isNext, closes]; rfl
      rw [answers_of_closed isClosed, written_refusals, after_of_closed isClosed]
      exact ⟨by simp [csvText], rfl⟩
    | false =>
      have stillCsv : (encoder.next call).format = .csv := by rw [isNext]; exact csv
      have stillOpen : (encoder.next call).closed = false := by rw [isNext, closes]; rfl
      have stillSettled : ∀ call' ∈ taken later,
          (encoder.next call).columnsWith call'.rows = (encoder.next call).columns := by
        intro call' member
        rw [closes] at rest
        rw [columnsWith, columns]
        exact rest call' member
      rcases ih stillCsv stillOpen stillSettled with ⟨text, layout⟩
      rw [text]
      exact ⟨by simp, layout⟩

/-- Columns that are known stay as they are. -/
theorem columns_after_of_named (csv : encoder.format = .csv) (named : encoder.columns ≠ [])
    (calls : List Call) : (encoder.after calls).columns = encoder.columns := by
  cases isClosed : encoder.closed with
  | true => rw [after_of_closed isClosed]
  | false =>
    exact (written_of_settled csv isClosed fun call _ => columnsWith_of_named named call.rows).2

end Settled

/-- Every call that is carried out gives a chunk, and every later one is refused. -/
theorem exists_chunks {encoder : Encoder} (isOpen : encoder.closed = false) (calls : List Call) :
    ∃ chunks : List String, chunks.length = (taken calls).length ∧
      encoder.answers calls = chunks.map .ok ++ (calls.drop chunks.length).map Call.refusal := by
  induction calls generalizing encoder with
  | nil => exact ⟨[], rfl, rfl⟩
  | cons call later ih =>
    rcases encode_of_open isOpen call with ⟨chunk, encodes, answered⟩
    have nextClosed := (closed_of_encode encodes).2
    rw [Bool.not_not] at nextClosed
    rw [answers, answered, taken]
    cases closes : call.closes with
    | true =>
      rw [closes] at nextClosed
      exact ⟨[chunk], rfl, by simp [answers_of_closed nextClosed]⟩
    | false =>
      rw [closes] at nextClosed
      rcases ih nextClosed with ⟨chunks, sameLength, isAnswers⟩
      exact ⟨chunk :: chunks, by simp [sameLength], by simp [isAnswers]⟩

/--
A CSV document can be read back. Its chunks are those of the calls up to the first that closes it,
and together they are a header with the cells of every row under it, or nothing without rows.
-/
theorem records?_written {columns : List String} (named : columns ≠ []) (download : Bool)
    (metadata : Option Json) (calls : List Call) :
    let fresh : Encoder := { format := .csv, download, metadata, columns }
    (∃ chunks : List String, chunks.length = (taken calls).length ∧
      fresh.answers calls = chunks.map .ok ++ (calls.drop chunks.length).map Call.refusal) ∧
    ((∀ call ∈ calls.dropLast, call.closes = false) → taken calls = calls) ∧
    Csv.records? (written (fresh.answers calls)) =
      some (if (takenRows calls).isEmpty then []
        else columns :: (takenRows calls).map (Csv.cells columns)) := by
  intro fresh
  have settled := @written_of_settled fresh rfl rfl calls fun call _ =>
    columnsWith_of_named named call.rows
  refine ⟨exists_chunks rfl calls, taken_of_dropLast, ?_⟩
  rw [settled.1, csvText_fresh, Csv.records?_document, Csv.table_of_named named]

/-- An empty batch first, and cells with a comma, a quote, line ends and nothing in them. -/
theorem records?_written_awkward :
    let calls : List Call := [.encode [] true,
      .encode [[("a", .string "x,y"), ("b", .object [("c", .string "\"")])]] true,
      .encode [[("a", .string "\r\n")], [("a", .string "")]] false]
    let encoder : Encoder := { format := .csv, columns := ["a", "b.c"] }
    ["a", "b.c"] ≠ [] ∧
      Csv.records? (written (encoder.answers calls)) =
        some [["a", "b.c"], ["x,y", "\""], ["\r\n", ""], ["", ""]] := by
  intro calls encoder
  have named : ["a", "b.c"] ≠ [] := List.cons_ne_nil _ _
  refine ⟨named, (records?_written named false none calls).2.2.trans ?_⟩
  decide +kernel

section Layout

/-- The layout stays what it was when the header was written. -/
def KeepsLayout (encoder : Encoder) (calls : List Call) : Prop :=
  ∀ before later, calls = before ++ later → (encoder.after before).headerWritten = true →
    (encoder.after calls).columns = (encoder.after before).columns

/--
The chunks are a CSV document in which the first record names the columns that the cells of all
rows are laid out by, every record is as long as the first, and the layout never changes.
-/
structure IsRectangular (encoder : Encoder) (calls : List Call) : Prop where
  reads : Csv.records? (written (encoder.answers calls)) =
    some (Csv.table (encoder.after calls).columns (takenRows calls))
  square : ∀ header ∈ (Csv.table (encoder.after calls).columns (takenRows calls)).head?,
    ∀ record ∈ Csv.table (encoder.after calls).columns (takenRows calls),
      record.length = header.length
  layout : encoder.KeepsLayout calls

/-- The first rows that are encoded. -/
def firstBatch (calls : List Call) : List Record :=
  ((taken calls).map Call.rows |>.find? (!·.isEmpty)).getD []

/-- Some row of the first batch with rows has a member, unless no row has any. -/
def NamesFirst (calls : List Call) : Prop :=
  (∃ row ∈ firstBatch calls, row ≠ []) ∨ ∀ row ∈ takenRows calls, row = []

variable {encoder : Encoder}

/-- Rows name no column only if none of them has a member. -/
theorem columnsOf_eq_nil_iff {rows : List Record} :
    Csv.columnsOf rows = [] ↔ ∀ row ∈ rows, row = [] := by
  let add (columns : List String) (name : String) : List String :=
    if columns.contains name then columns else columns ++ [name]
  have addAll : ∀ (names columns : List String),
      names.foldl add columns = [] ↔ columns = [] ∧ names = [] := by
    intro names
    induction names with
    | nil => simp
    | cons name names ih =>
      intro columns
      rw [List.foldl_cons, ih]
      have notNil : add columns name ≠ [] := by
        cases columns with
        | nil => simp [add]
        | cons first others =>
          simp only [add]
          split <;> simp
      simp [notNil]
  have gather : ∀ (rows : List Record) (columns : List String),
      rows.foldl (fun columns row => (Table.names row).foldl add columns) columns = [] ↔
        columns = [] ∧ ∀ row ∈ rows, row = [] := by
    intro rows
    induction rows with
    | nil => simp
    | cons row rows ih =>
      intro columns
      rw [List.foldl_cons, ih, addAll, List.forall_mem_cons, and_assoc, Table.names,
        List.map_eq_nil_iff]
  exact (gather rows []).trans (by simp)

theorem next_csv (csv : encoder.format = .csv) (isOpen : encoder.closed = false)
    (call : Call) :
    encoder.next call = { encoder with
      columns := encoder.columnsWith call.rows
      headerWritten := encoder.headerWritten || !call.rows.isEmpty
      closed := call.closes } := by
  rcases encode_of_open isOpen call with ⟨chunk, encodes, -⟩
  rw [(encode_csv csv encodes).2, Bool.not_not]

theorem keepsLayout_of_closed (isClosed : encoder.closed = true) (calls : List Call) :
    encoder.KeepsLayout calls := by
  intro before later isCalls _
  rw [after_of_closed isClosed, after_of_closed isClosed]

theorem keepsLayout_of_named (csv : encoder.format = .csv) (named : encoder.columns ≠ [])
    (calls : List Call) : encoder.KeepsLayout calls := by
  intro before later isCalls _
  rw [columns_after_of_named csv named, columns_after_of_named csv named]

/-- Until the header is written there is no layout to keep. -/
theorem keepsLayout_cons (noHeader : encoder.headerWritten = false) (call : Call)
    (later : List Call) :
    encoder.KeepsLayout (call :: later) ↔ (encoder.next call).KeepsLayout later := by
  constructor
  · intro keeps before rest isLater written
    exact keeps (call :: before) rest (by rw [isLater, List.cons_append]) written
  · intro keeps before rest isCalls written
    cases before with
    | nil =>
      rw [after, List.foldl_nil, noHeader] at written
      cases written
    | cons first before =>
      rw [List.cons_append, List.cons.injEq] at isCalls
      rcases isCalls with ⟨rfl, isLater⟩
      exact keeps before rest isLater written

/-- An encoder without columns stays so only if no row has a member. -/
theorem columns_after_eq_nil_iff (csv : encoder.format = .csv) (isOpen : encoder.closed = false)
    (unnamed : encoder.columns = []) (calls : List Call) :
    (encoder.after calls).columns = [] ↔ ∀ row ∈ takenRows calls, row = [] := by
  induction calls generalizing encoder with
  | nil => simp [after, takenRows, taken, unnamed]
  | cons call later ih =>
    have isNext := next_csv csv isOpen call
    rw [columnsWith_of_unnamed unnamed] at isNext
    rw [after, List.foldl_cons, ← after, takenRows_cons, List.forall_mem_append,
      ← columnsOf_eq_nil_iff]
    by_cases named : Csv.columnsOf call.rows = []
    · simp only [named, true_and]
      cases closes : call.closes with
      | true =>
        rw [after_of_closed (by rw [isNext, closes]), isNext, named]
        simp
      | false =>
        have nextColumns : (encoder.next call).columns = [] := by rw [isNext, named]
        rw [ih (by rw [isNext]; exact csv) (by rw [isNext, closes]) nextColumns]
        simp
    · rw [columns_after_of_named (by rw [isNext]; exact csv) (by rw [isNext]; exact named), isNext]
      simp [named]

theorem firstBatch_cons_nil {call : Call} (noRows : call.rows = []) (later : List Call) :
    firstBatch (call :: later) = if call.closes then [] else firstBatch later := by
  cases closes : call.closes <;> simp [firstBatch, taken, noRows, closes]

theorem firstBatch_cons {call : Call} (hasRows : call.rows ≠ []) (later : List Call) :
    firstBatch (call :: later) = call.rows := by
  simp [firstBatch, taken, hasRows]

/-- An encoder that has written its header without columns must never get any. -/
theorem keepsLayout_iff_of_header (csv : encoder.format = .csv) (isOpen : encoder.closed = false)
    (unnamed : encoder.columns = []) (written : encoder.headerWritten = true) (calls : List Call) :
    encoder.KeepsLayout calls ↔ ∀ row ∈ takenRows calls, row = [] := by
  rw [← columns_after_eq_nil_iff csv isOpen unnamed]
  constructor
  · intro keeps
    rw [keeps [] calls rfl written]
    exact unnamed
  · intro none before later isCalls _
    rw [none]
    rw [columns_after_eq_nil_iff csv isOpen unnamed, isCalls] at none
    refine ((columns_after_eq_nil_iff csv isOpen unnamed before).mpr ?_).symm
    intro row member
    exact none row ((takenRows_prefix_append before later).subset member)

/-- The layout is kept exactly if the first batch with rows names a column, or no batch does. -/
theorem keepsLayout_iff (csv : encoder.format = .csv) (isOpen : encoder.closed = false)
    (unnamed : encoder.columns = []) (noHeader : encoder.headerWritten = false)
    (calls : List Call) : encoder.KeepsLayout calls ↔ NamesFirst calls := by
  induction calls generalizing encoder with
  | nil =>
    refine iff_of_true ?_ (.inr (by simp [takenRows, taken]))
    intro before later isCalls written
    rw [(List.nil_eq_append_iff.mp isCalls).1, after, List.foldl_nil, noHeader] at written
    cases written
  | cons call later ih =>
    have isNext := next_csv csv isOpen call
    rw [columnsWith_of_unnamed unnamed, noHeader, Bool.false_or] at isNext
    have stillCsv : (encoder.next call).format = .csv := by
      rw [isNext]
      exact csv
    rw [keepsLayout_cons noHeader, NamesFirst, takenRows_cons]
    by_cases noRows : call.rows = []
    · -- nothing happens, unless the call closes the document
      rw [firstBatch_cons_nil noRows, noRows, List.nil_append]
      cases closes : call.closes with
      | true =>
        have isClosed : (encoder.next call).closed = true := by rw [isNext, closes]
        refine iff_of_true (keepsLayout_of_closed isClosed later) (.inr ?_)
        simp
      | false =>
        refine ih stillCsv (by rw [isNext, closes]) ?_ ?_
        · rw [isNext, noRows]
          rfl
        · rw [isNext, noRows]
          rfl
    rw [firstBatch_cons noRows]
    have written : (encoder.next call).headerWritten = true := by
      rw [isNext]
      simpa using noRows
    by_cases named : Csv.columnsOf call.rows = []
    · -- a header without columns is out, so that no later batch may name one
      have none := columnsOf_eq_nil_iff.mp named
      have notFirst : ¬ ∃ row ∈ call.rows, row ≠ [] := by
        rintro ⟨row, member, isNamed⟩
        exact isNamed (none row member)
      rw [or_iff_right notFirst, List.forall_mem_append, and_iff_right none]
      cases closes : call.closes with
      | true =>
        have isClosed : (encoder.next call).closed = true := by rw [isNext, closes]
        exact iff_of_true (keepsLayout_of_closed isClosed later) (by simp)
      | false =>
        have nextUnnamed : (encoder.next call).columns = [] := by rw [isNext, named]
        exact keepsLayout_iff_of_header stillCsv (by rw [isNext, closes]) nextUnnamed written later
    · -- the columns are decided with the header
      have nextNamed : (encoder.next call).columns ≠ [] := by
        rw [isNext]
        exact named
      refine iff_of_true (keepsLayout_of_named stillCsv nextNamed later) (.inl ?_)
      simpa [columnsOf_eq_nil_iff] using named

/-- A call without rows writes nothing. -/
theorem perform_of_noRows (csv : encoder.format = .csv) (isOpen : encoder.closed = false)
    {call : Call} (noRows : call.rows = []) :
    encoder.perform call = .ok ("", { encoder with closed := call.closes }) := by
  cases call with
  | finish => simp [perform, finish, encode, encodeCsv, csv, isOpen, Call.closes]
  | encode rows more =>
    have isEmpty : rows = [] := noRows
    subst isEmpty
    simp [perform, encode, encodeCsv, csv, isOpen, Call.closes]

/-- An encoder is from the start like one with the columns of its first batch, if that has any. -/
theorem answers_of_firstBatch (csv : encoder.format = .csv) (isOpen : encoder.closed = false)
    (unnamed : encoder.columns = []) {calls : List Call} {columns : List String}
    (isFirst : Csv.columnsOf (firstBatch calls) = columns) (named : columns ≠ []) :
    let preset := { encoder with columns }
    encoder.answers calls = preset.answers calls ∧ encoder.after calls = preset.after calls := by
  induction calls generalizing encoder with
  | nil => exact absurd isFirst.symm named
  | cons call later ih =>
    intro preset
    by_cases noRows : call.rows = []
    · have performs := perform_of_noRows csv isOpen noRows
      have presetPerforms := @perform_of_noRows preset csv isOpen call noRows
      rw [firstBatch_cons_nil noRows] at isFirst
      cases closes : call.closes with
      | true =>
        rw [closes] at isFirst
        exact absurd isFirst.symm named
      | false =>
        rw [closes] at isFirst performs presetPerforms
        have rest := @ih { encoder with closed := false } csv rfl unnamed isFirst
        simp only [answers, answer, next, after, List.foldl_cons, performs, presetPerforms]
        exact ⟨congrArg _ rest.1, rest.2⟩
    · rw [firstBatch_cons noRows] at isFirst
      cases call with
      | finish => exact absurd rfl noRows
      | encode rows more =>
        have same := encode_columnsWith csv rows more
        rw [columnsWith_of_unnamed unnamed] at same
        subst isFirst
        rcases exists_encode isOpen rows more with ⟨chunk, following, encodes⟩
        rw [encodes] at same
        simp only [answers, answer, next, after, List.foldl_cons, perform, preset, Call.rows, same,
          encodes, and_self]

/-- Under one layout from first to last, the document is the table of all rows. -/
theorem records?_of_namesFirst (csv : encoder.format = .csv) (isOpen : encoder.closed = false)
    (unnamed : encoder.columns = []) (noHeader : encoder.headerWritten = false)
    {calls : List Call} (namesFirst : NamesFirst calls) :
    Csv.records? (written (encoder.answers calls)) =
      some (Csv.table (encoder.after calls).columns (takenRows calls)) := by
  rcases namesFirst with ⟨row, member, isNamed⟩ | none
  · have named : Csv.columnsOf (firstBatch calls) ≠ [] := by
      intro isNil
      exact isNamed (columnsOf_eq_nil_iff.mp isNil row member)
    rcases answers_of_firstBatch csv isOpen unnamed rfl named with ⟨sameAnswers, sameEnd⟩
    let preset : Encoder := { encoder with columns := Csv.columnsOf (firstBatch calls) }
    have settled := @written_of_settled preset csv isOpen calls
      fun call _ => columnsWith_of_named named call.rows
    rw [sameAnswers, sameEnd, settled.1, settled.2, ← Csv.records?_document]
    simp [csvText, Csv.document, noHeader, preset]
  · have settled : ∀ call ∈ taken calls, encoder.columnsWith call.rows = encoder.columns := by
      intro call member
      rw [columnsWith_of_unnamed unnamed, unnamed, columnsOf_eq_nil_iff]
      intro row isRow
      exact none row (List.mem_flatMap.mpr ⟨call, member, isRow⟩)
    rcases written_of_settled csv isOpen settled with ⟨text, layout⟩
    rw [text, layout, ← Csv.records?_document]
    simp [csvText, Csv.document, noHeader]

/--
The document of an encoder without columns is rectangular exactly if the first batch that has rows
names a column, or no batch does.
-/
theorem isRectangular_iff (download : Bool) (metadata : Option Json) (calls : List Call) :
    IsRectangular { format := .csv, download, metadata } calls ↔ NamesFirst calls := by
  have layout := @keepsLayout_iff { format := .csv, download, metadata } rfl rfl rfl rfl calls
  constructor
  · intro rectangular
    exact layout.mp rectangular.layout
  · intro namesFirst
    refine ⟨records?_of_namesFirst rfl rfl rfl rfl namesFirst, ?_, layout.mpr namesFirst⟩
    intro header isHeader record member
    rw [Csv.length_of_mem_table member, Csv.length_of_mem_table (List.mem_of_mem_head? isHeader)]

/-- A first row without members leaves an empty header, and the next row has two cells under it. -/
theorem not_isRectangular_of_late_names :
    let calls : List Call :=
      [.encode [[]] true, .encode [[("a", .string "x"), ("b", .string "y")]] false]
    let encoder : Encoder := { format := .csv }
    Csv.records? (written (encoder.answers calls)) = some [[""], [""], ["x", "y"]] ∧
      ¬ encoder.IsRectangular calls := by
  intro calls encoder
  have reads : Csv.records? (written (encoder.answers calls)) =
      some [[""], [""], ["x", "y"]] := by
    decide +kernel
  refine ⟨reads, ?_⟩
  intro rectangular
  have isTable := rectangular.reads
  rw [reads, Option.some.injEq] at isTable
  have square := rectangular.square [""] (by rw [← isTable]; rfl) ["x", "y"] (by simp [← isTable])
  cases square

end Layout

end SearchSql.Encoder
