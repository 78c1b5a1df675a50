import SearchSql.Proofs.Query.Units
import SearchSql.Proofs.Row.Renaming
import Mathlib.Data.List.Forall2

/-!
# Labels of plain fields

The labels of a select list are meant at once, and renamings are carried out one after the other.
For fields without dots the two come to the same exactly when no label is the column of an item
further on in the list. Otherwise the first such label meets that column while it is still in the
row, the later of the two members keeps its value, and the row comes out shorter than it was.

The proof is an induction along the select list. `Renameable` says what a row has to be like before
the renamings of the items that are left: their columns are there, and a label still to come is new
or one of these columns.
-/

namespace SearchSql

namespace Table

variable {α : Type} {table entries : Table α}

theorem length_put (table : Table α) (name : String) (value : α) :
    (put name value table).length =
      if name ∈ table.names then table.length else table.length + 1 := by
  have lengths := congrArg List.length (names_put table name value)
  split <;> simp_all [names]

theorem length_putAll_le (table : Table α) (entries : List (String × α)) :
    (table.putAll entries).length ≤ table.length + entries.length := by
  induction entries generalizing table with
  | nil => exact Nat.le_refl _
  | cons entry rest ih =>
    have later := ih (put entry.1 entry.2 table)
    have here := length_put table entry.1 entry.2
    change (putAll (put entry.1 entry.2 table) rest).length ≤ _
    rw [List.length_cons]
    split at here <;> omega

/-- Putting entries with a name that comes twice makes fewer members than there are entries. -/
theorem length_putAll_lt (wellFormed : table.WellFormed) (clash : ¬WellFormed (table ++ entries)) :
    (table.putAll entries).length < table.length + entries.length := by
  induction entries generalizing table with
  | nil => exact absurd (by simpa using wellFormed) clash
  | cons entry rest ih =>
    change (putAll (put entry.1 entry.2 table) rest).length < _
    rw [List.length_cons]
    by_cases known : entry.1 ∈ table.names
    · have later := length_putAll_le (put entry.1 entry.2 table) rest
      rw [length_put, if_pos known] at later
      omega
    · have distinct := wellFormed.put entry.1 entry.2
      rw [put_of_not_mem known] at distinct ⊢
      have later := ih distinct (by simpa using clash)
      simp only [List.length_append, List.length_singleton] at later
      omega

theorem length_ofEntries_le (entries : List (String × α)) :
    (ofEntries entries : Table α).length ≤ entries.length := by
  simpa [ofEntries] using length_putAll_le [] entries

theorem length_ofEntries_lt (clash : ¬entries.WellFormed) :
    (ofEntries entries : Table α).length < entries.length := by
  have shorter := length_putAll_lt (α := α) wellFormed_nil clash
  simpa [ofEntries] using shorter

end Table

namespace Row

variable {row : Record} {column label : String}

theorem has_of_mem_names (known : column ∈ Table.names row) : Table.has row column = true := by
  rw [Table.has_eq_isSome_get?, Option.isSome_iff_ne_none]
  exact fun absent => Table.get?_eq_none_iff.1 absent known

/-- A column that is there gives its place to a new name, and every other member stays. -/
theorem rename_of_new (wellFormed : Table.WellFormed row) (known : column ∈ Table.names row)
    (new : label ∉ Table.names row) :
    Table.WellFormed (rename row (column, label)) ∧ rename row (column, label) =
      row.map fun member => if member.1 == column then (label, member.2) else member := by
  have differs : column ≠ label := fun same => new (same ▸ known)
  simp only [rename, differs, has_of_mem_names known, if_true, if_false]
  exact renameMember_eq wellFormed new

theorem length_rename_le (plain : Path.isDotted column = false) :
    (rename row (column, label)).length ≤ row.length := by
  simp only [rename, plain, Bool.false_eq_true, if_false]
  split
  · exact Nat.le_refl _
  · split
    · rw [renameMember]
      simpa using Table.length_ofEntries_le (row.map _)
    · exact Nat.le_refl _

/-- A column that takes the name of another one drives it out. -/
theorem length_rename_lt (known : column ∈ Table.names row) (clash : label ∈ Table.names row)
    (differs : column ≠ label) : (rename row (column, label)).length < row.length := by
  simp only [rename, differs, has_of_mem_names known, if_true, if_false, renameMember]
  let renamed := row.map fun member => if member.1 == column then (label, member.2) else member
  have twice : ¬Table.WellFormed renamed := by
    unfold Table.WellFormed
    rw [names_map_rename]
    intro distinct
    refine differs (List.inj_on_of_nodup_map distinct known clash ?_)
    simp
  simpa [renamed] using Table.length_ofEntries_lt twice

end Row

namespace SelectItem

/-- The column of an item that selects a field. -/
def column (item : SelectItem) : String := item.selection.name

/-- The column of an item under the name that it has in the output. -/
def outputName (item : SelectItem) : String := item.label.getD item.column

/-- The item selects a field by a path without dots. -/
def IsPlain (item : SelectItem) : Prop :=
  ∃ path, item.selection = .field path ∧ Path.isDotted path = false

/-- The label of the item is not the column of another one. -/
def SparesColumn (item later : SelectItem) : Prop := item.label ≠ some later.column

end SelectItem

namespace Row

open SelectItem

variable {select rest : List SelectItem} {item : SelectItem} {row : Record}

theorem ofItems_of_plain (plain : ∀ item ∈ select, item.IsPlain) :
    SelectUnit.ofItems select = select.map .single := by
  have regular : ∀ unit ∈ select.map SelectUnit.single, unit.Regular := by
    intro unit isUnit
    rcases List.mem_map.1 isUnit with ⟨item, isItem, rfl⟩
    rcases plain item isItem with ⟨path, isPath, -⟩
    simp [SelectUnit.Regular, isPath]
  have same : (select.map SelectUnit.single).flatMap SelectUnit.items = select := by
    simp [List.flatMap_map, SelectUnit.items]
  rw [← SelectUnit.ofItems_flatMap_items regular, same]

/-- Plain items are renamed one at a time, each when it has a label. -/
theorem withLabels_cons (plain : ∀ other ∈ item :: rest, other.IsPlain) (row : Record) :
    withLabels (item :: rest) row =
      withLabels rest (item.label.elim row fun label => rename row (item.column, label)) := by
  have later : ∀ other ∈ rest, other.IsPlain := fun other isOther =>
    plain other (List.mem_cons_of_mem _ isOther)
  rcases plain item List.mem_cons_self with ⟨path, isPath, -⟩
  rcases item with ⟨selection, label⟩
  simp only at isPath
  subst isPath
  rw [withLabels, withLabels, renamings, renamings, ofItems_of_plain plain, ofItems_of_plain later,
    List.map_cons, List.filterMap_cons]
  cases label <;> rfl

theorem length_withLabels_le (plain : ∀ item ∈ select, item.IsPlain) (row : Record) :
    (withLabels select row).length ≤ row.length := by
  induction select generalizing row with
  | nil => exact Nat.le_refl _
  | cons item rest ih =>
    rcases List.forall_mem_cons.1 plain with ⟨⟨path, isPath, undotted⟩, later⟩
    rw [withLabels_cons plain]
    refine Nat.le_trans (ih later _) ?_
    cases item.label with
    | none => exact Nat.le_refl _
    | some label =>
      refine length_rename_le ?_
      rw [column, isPath]
      exact undotted

/-- What the renamings that are left do to a member: they concern it, or leave it alone. -/
def Renamed (select : List SelectItem) (member member' : String × Json) : Prop :=
  (∃ item ∈ select, member.1 = item.column ∧ member' = (item.outputName, member.2)) ∨
    (∀ item ∈ select, item.column ≠ member.1) ∧ member' = member

/-- A row before the renamings of the items that are left. -/
structure Renameable (select : List SelectItem) (row : Record) : Prop where
  plain : ∀ item ∈ select, item.IsPlain
  columns : (select.map column).Nodup
  outputs : (select.map outputName).Nodup
  wellFormed : Table.WellFormed row
  known : ∀ item ∈ select, item.column ∈ Table.names row
  free : ∀ name ∈ Table.names row, (∀ item ∈ select, item.column ≠ name) →
    ∀ item ∈ select, item.outputName ≠ name

namespace Renameable

theorem column_ne (able : Renameable (item :: rest) row) {later : SelectItem}
    (isLater : later ∈ rest) : later.column ≠ item.column := by
  intro same
  exact (List.nodup_cons.1 able.columns).1 (List.mem_map.2 ⟨later, isLater, same⟩)

theorem outputName_ne (able : Renameable (item :: rest) row) {later : SelectItem}
    (isLater : later ∈ rest) : later.outputName ≠ item.outputName := by
  intro same
  exact (List.nodup_cons.1 able.outputs).1 (List.mem_map.2 ⟨later, isLater, same⟩)

/-- A label that is in the row is the column of an item. -/
theorem exists_column (able : Renameable select row) (isItem : item ∈ select)
    (isName : item.outputName ∈ Table.names row) :
    ∃ other ∈ select, other.column = item.outputName := by
  apply Classical.byContradiction
  intro none
  simp only [not_exists, not_and] at none
  exact able.free _ isName none item isItem rfl

/-- An item that keeps its column leaves the row to those after it. -/
theorem of_same (able : Renameable (item :: rest) row) (same : item.outputName = item.column) :
    Renameable rest row where
  plain := fun other isOther => able.plain other (List.mem_cons_of_mem _ isOther)
  columns := (List.nodup_cons.1 able.columns).2
  outputs := (List.nodup_cons.1 able.outputs).2
  wellFormed := able.wellFormed
  known := fun other isOther => able.known other (List.mem_cons_of_mem _ isOther)
  free := by
    intro name isName others other isOther
    by_cases isColumn : item.column = name
    · rw [← isColumn, ← same]
      exact able.outputName_ne isOther
    · refine able.free name isName ?_ other (List.mem_cons_of_mem _ isOther)
      exact List.forall_mem_cons.2 ⟨isColumn, others⟩

theorem rename (able : Renameable (item :: rest) row) {label : String}
    (isLabel : item.label = some label) (new : label ∉ Table.names row) :
    Renameable rest (Row.rename row (item.column, label)) := by
  have isOutput : item.outputName = label := by simp [outputName, isLabel]
  have known := able.known item List.mem_cons_self
  rcases rename_of_new able.wellFormed known new with ⟨wellFormed, renamed⟩
  have names : Table.names (Row.rename row (item.column, label)) =
      row.names.map fun name => if name = item.column then label else name := by
    rw [renamed, names_map_rename]
  refine ⟨fun other isOther => able.plain other (List.mem_cons_of_mem _ isOther),
    (List.nodup_cons.1 able.columns).2, (List.nodup_cons.1 able.outputs).2, wellFormed, ?_, ?_⟩
  · intro other isOther
    rw [names, List.mem_map]
    refine ⟨other.column, able.known other (List.mem_cons_of_mem _ isOther), ?_⟩
    rw [if_neg (able.column_ne isOther)]
  · intro name isName others other isOther
    rw [names, List.mem_map] at isName
    rcases isName with ⟨before, isBefore, isName⟩
    split at isName
    · -- the name is the label itself, which no other item has
      rw [← isName, ← isOutput]
      exact able.outputName_ne isOther
    next notColumn =>
      subst isName
      refine able.free before isBefore ?_ other (List.mem_cons_of_mem _ isOther)
      exact List.forall_mem_cons.2 ⟨Ne.symm notColumn, others⟩

end Renameable

/-- Either every label spares the columns further on, or a member is lost. -/
def Settles (select : List SelectItem) (row next : Record) : Prop :=
  select.Pairwise SparesColumn ∧ List.Forall₂ (Renamed select) row next ∨
    ¬select.Pairwise SparesColumn ∧ next.length < row.length

/-- An item that keeps its column has no part in what comes of the row. -/
theorem settles_cons_of_same {next : Record} (same : item.outputName = item.column)
    (spares : ∀ later ∈ rest, SparesColumn item later) (settles : Settles rest row next) :
    Settles (item :: rest) row next := by
  rcases settles with ⟨others, renamed⟩ | ⟨clash, shorter⟩
  · refine .inl ⟨.cons spares others, renamed.imp ?_⟩
    rintro member member' (⟨later, isLater, found⟩ | ⟨others, rfl⟩)
    · exact .inl ⟨later, List.mem_cons_of_mem _ isLater, found⟩
    · by_cases isColumn : member'.1 = item.column
      · exact .inl ⟨item, List.mem_cons_self, isColumn, by rw [same, ← isColumn]⟩
      · exact .inr ⟨List.forall_mem_cons.2 ⟨Ne.symm isColumn, others⟩, rfl⟩
  · exact .inr ⟨fun others => clash (List.pairwise_cons.1 others).2, shorter⟩

/-- A label that is new to the row is not renamed again. -/
theorem settles_cons_of_new {label : String} {next : Record} (isLabel : item.label = some label)
    (spared : ∀ later ∈ rest, later.column ≠ label)
    (settles : Settles rest
      (row.map fun member => if member.1 == item.column then (label, member.2) else member) next) :
    Settles (item :: rest) row next := by
  rcases settles with ⟨others, renamed⟩ | ⟨clash, shorter⟩
  · have spares : ∀ later ∈ rest, SparesColumn item later := by
      intro later isLater same
      exact spared later isLater (Option.some.inj (same.symm.trans isLabel))
    refine .inl ⟨.cons spares others, (List.forall₂_map_left_iff.1 renamed).imp ?_⟩
    intro member member' found
    by_cases isColumn : member.1 = item.column
    · simp only [isColumn, beq_self_eq_true, if_true] at found
      rcases found with ⟨later, isLater, isLabel', -⟩ | ⟨-, rfl⟩
      · exact absurd isLabel'.symm (spared later isLater)
      · exact .inl ⟨item, List.mem_cons_self, isColumn, by simp [outputName, isLabel]⟩
    · simp only [beq_iff_eq, isColumn, if_false] at found
      rcases found with ⟨later, isLater, found⟩ | ⟨others, same⟩
      · exact .inl ⟨later, List.mem_cons_of_mem _ isLater, found⟩
      · exact .inr ⟨List.forall_mem_cons.2 ⟨Ne.symm isColumn, others⟩, same⟩
  · rw [List.length_map] at shorter
    exact .inr ⟨fun others => clash (List.pairwise_cons.1 others).2, shorter⟩

theorem Renameable.settles (able : Renameable select row) :
    Settles select row (withLabels select row) := by
  induction select generalizing row with
  | nil => exact .inl ⟨.nil, List.forall₂_same.2 fun member _ => .inr ⟨nofun, rfl⟩⟩
  | cons item rest ih =>
    rw [withLabels_cons able.plain]
    cases isLabel : item.label with
    | none =>
      have same : item.outputName = item.column := by simp [outputName, isLabel]
      refine settles_cons_of_same same (fun later _ => ?_) (ih (able.of_same same))
      simp [SparesColumn, isLabel]
    | some label =>
      have isOutput : item.outputName = label := by simp [outputName, isLabel]
      have known := able.known item List.mem_cons_self
      by_cases same : item.column = label
      · -- the label is the name that the column has anyway
        have unchanged : Row.rename row (item.column, label) = row := by simp [Row.rename, same]
        have isSame := isOutput.trans same.symm
        rw [Option.elim_some, unchanged]
        refine settles_cons_of_same isSame (fun later isLater => ?_) (ih (able.of_same isSame))
        simpa [SparesColumn, isLabel, ← same] using (able.column_ne isLater).symm
      · by_cases new : label ∈ Table.names row
        · -- the label meets a column, which can only be one further on
          right
          constructor
          · intro spares
            rcases able.exists_column List.mem_cons_self (isOutput ▸ new) with
              ⟨other, isOther, isColumn⟩
            rw [isOutput] at isColumn
            rcases List.mem_cons.1 isOther with rfl | isLater
            · exact same isColumn
            · exact (List.pairwise_cons.1 spares).1 other isLater (by rw [isLabel, isColumn])
          · refine Nat.lt_of_le_of_lt (length_withLabels_le ?_ _) (length_rename_lt known new same)
            exact (List.forall_mem_cons.1 able.plain).2
        · have spared : ∀ later ∈ rest, later.column ≠ label := by
            rintro later isLater rfl
            exact new (able.known later (List.mem_cons_of_mem _ isLater))
          have settles := ih (able.rename isLabel new)
          rw [Option.elim_some]
          rw [(rename_of_new able.wellFormed known new).2] at settles ⊢
          exact settles_cons_of_new isLabel spared settles

/-- A row of the columns that a select list of plain fields under different names selects. -/
structure SelectsPlain (select : List SelectItem) (row : Record) : Prop where
  plain : ∀ item ∈ select, item.IsPlain
  columns : (select.map column).Nodup
  outputs : (select.map outputName).Nodup
  wellFormed : Table.WellFormed row
  names : ∀ name, name ∈ Table.names row ↔ name ∈ select.map column

/-- Every member comes under the output name of its item, in its place and with its value. -/
def TakesOutputNames (select : List SelectItem) (row next : Record) : Prop :=
  List.Forall₂ (fun member member' => ∃ item ∈ select,
    member.1 = item.column ∧ member' = (item.outputName, member.2)) row next

/--
The columns of plain fields take their output names if and only if no label is the column of a later
item. Otherwise the row has fewer members than before.
-/
theorem takesOutputNames_iff {select : List SelectItem} {row : Record}
    (selects : SelectsPlain select row) :
    (TakesOutputNames select row (withLabels select row) ↔ select.Pairwise SparesColumn) ∧
      (¬select.Pairwise SparesColumn → (withLabels select row).length < row.length) := by
  rcases selects with ⟨plain, columns, outputs, wellFormed, names⟩
  have able : Renameable select row := by
    refine ⟨plain, columns, outputs, wellFormed, ?_, ?_⟩
    · exact fun item isItem => (names _).2 (List.mem_map_of_mem isItem)
    · intro name isName none
      rcases List.mem_map.1 ((names name).1 isName) with ⟨item, isItem, isColumn⟩
      exact absurd isColumn (none item isItem)
  rcases able.settles with ⟨spares, renamed⟩ | ⟨clash, shorter⟩
  · refine ⟨⟨fun _ => spares, fun _ => ?_⟩, fun clash => absurd spares clash⟩
    have isColumn : ∀ member ∈ row, ∃ item ∈ select, item.column = member.1 :=
      fun member isMember => List.mem_map.1 ((names member.1).1 (List.mem_map_of_mem isMember))
    refine ((List.forall₂_and_left row _).2 ⟨isColumn, renamed⟩).imp ?_
    rintro member member' ⟨⟨item, isItem, isColumn⟩, found | ⟨none, -⟩⟩
    · exact found
    · exact absurd isColumn (none item isItem)
  · refine ⟨⟨fun renamed => ?_, fun spares => absurd spares clash⟩, fun _ => shorter⟩
    exact absurd renamed.length_eq (Nat.ne_of_gt shorter)

/-- A label may be the column of an earlier item, whose turn has come by then. -/
theorem takesOutputNames_of_shifted_back :
    let select : List SelectItem :=
      [⟨.field "b", some "c"⟩, ⟨.field "a", some "b"⟩, ⟨.field "d", none⟩]
    let row : Record := [("a", .bool true), ("d", .null), ("b", .bool false)]
    SelectsPlain select row ∧ select.Pairwise SparesColumn ∧
      TakesOutputNames select row (withLabels select row) ∧
      withLabels select row = [("b", .bool true), ("d", .null), ("c", .bool false)] := by
  intro select row
  have spares : select.Pairwise SparesColumn := by
    simp [select, SparesColumn, column, Selection.name]
  have selects : SelectsPlain select row := by
    refine ⟨?_, by decide, by decide, by decide, fun name => ?_⟩
    · simp only [select, List.forall_mem_cons, List.not_mem_nil, false_imp_iff, implies_true,
        and_true]
      exact ⟨⟨"b", rfl, by decide⟩, ⟨"a", rfl, by decide⟩, ⟨"d", rfl, by decide⟩⟩
    · simp only [row, select, Table.names, column, Selection.name, List.map_cons, List.map_nil,
        List.mem_cons, List.not_mem_nil, or_false]
      tauto
  exact ⟨selects, spares, (takesOutputNames_iff selects).1.2 spares, by rfl⟩

/-- `a AS b, b AS c` loses the value of `a`, and so does `a AS b, b AS a`. -/
theorem not_takesOutputNames_of_shifted :
    let row : Record := [("a", .bool true), ("b", .bool false)]
    let shifted : List SelectItem := [⟨.field "a", some "b"⟩, ⟨.field "b", some "c"⟩]
    let swapped : List SelectItem := [⟨.field "a", some "b"⟩, ⟨.field "b", some "a"⟩]
    SelectsPlain shifted row ∧ SelectsPlain swapped row ∧
      withLabels shifted row = [("c", .bool false)] ∧
      withLabels swapped row = [("a", .bool false)] ∧
      ¬TakesOutputNames shifted row (withLabels shifted row) ∧
      ¬TakesOutputNames swapped row (withLabels swapped row) := by
  intro row shifted swapped
  have plain : ∀ label label' : String,
      ∀ item ∈ [SelectItem.mk (.field "a") (some label), ⟨.field "b", some label'⟩],
      item.IsPlain := by
    intro label label'
    simp only [List.forall_mem_cons, List.not_mem_nil, false_imp_iff, implies_true, and_true]
    exact ⟨⟨"a", rfl, by decide⟩, ⟨"b", rfl, by decide⟩⟩
  refine ⟨⟨plain _ _, by decide, by decide, by decide, fun _ => Iff.rfl⟩,
    ⟨plain _ _, by decide, by decide, by decide, fun _ => Iff.rfl⟩, rfl, rfl, ?_, ?_⟩
  · exact fun renamed => absurd renamed.length_eq (by decide)
  · exact fun renamed => absurd renamed.length_eq (by decide)

end Row

end SearchSql
