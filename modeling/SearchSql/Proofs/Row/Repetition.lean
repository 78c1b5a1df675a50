import SearchSql.Page
import SearchSql.Proofs.Row.Renaming

/-!
# Rows that are hits again

The rows of a page of hits can be taken for hits themselves. If no label brings back a column that a
renaming takes away, then their rows are the same rows.

After a renaming its column leads nowhere (`columnValue?_rename_self`), and it still leads nowhere
after the renamings that follow (`columnValue?_rename_eq_none`): a label is neither the column nor
the object that the column starts in, and cutting values out of objects makes no path new. At the
end all columns lead nowhere, and the renamings have nothing left to do.
-/

namespace SearchSql

namespace Row

open SearchSql.Path

variable {row : Record} {column label other name : String} {path : List String}

/-! ## What one renaming leaves alone -/

theorem get?_renameMember_of_ne (wellFormed : Table.WellFormed row) (differs : name ≠ label) :
    Table.get? (renameMember column label row) name =
      if name = column then none else Table.get? row name := by
  have gathered : ∀ row : Record, Table.get? (renameMember column label row) name =
      if name = column then none else Table.get? (Table.ofEntries row) name := by
    intro row
    induction row with
    | nil => simp [renameMember, Table.ofEntries, Table.putAll]
    | cons member row ih =>
      rw [renameMember, List.map_cons, Table.get?_ofEntries_cons, ← renameMember, ih,
        Table.get?_ofEntries_cons]
      have notLabel : label ≠ name := Ne.symm differs
      by_cases isColumn : member.1 = column
      · by_cases same : name = column
        · simp [isColumn, same, same ▸ notLabel]
        · simp [isColumn, same, Ne.symm same, notLabel]
      · by_cases same : name = column <;> simp [isColumn, same]
  rw [gathered, Table.ofEntries_of_wellFormed wellFormed]

theorem wellFormed_rename (wellFormed : Table.WellFormed row) (column label : String) :
    Table.WellFormed (rename row (column, label)) := by
  rcases rename_cases row column label with
    ⟨-, isNext⟩ | ⟨value, -, isNext⟩ | ⟨-, value, rest, taken, isNext⟩
  · rwa [isNext]
  · rw [isNext]
    exact Table.wellFormed_ofEntries _
  · rcases exists_segments column with ⟨more, isPath⟩
    rw [isPath] at taken
    rw [isNext]
    exact (wellFormed_of_take taken wellFormed).put label value

/-- A path that leads nowhere still leads nowhere, unless it begins with the label. -/
theorem find?_rename_eq_none (wellFormed : Table.WellFormed row) (differs : name ≠ label)
    (absent : find? (name :: path) (.object row) = none) :
    find? (name :: path) (.object (rename row (column, label))) = none := by
  rcases rename_cases row column label with
    ⟨-, isNext⟩ | ⟨value, -, isNext⟩ | ⟨-, value, rest, taken, isNext⟩
  · rwa [isNext]
  · rw [isNext, find?_object, get?_renameMember_of_ne wellFormed differs]
    split
    · rfl
    · exact absent
  · rw [isNext, find?_object, Table.get?_put, if_neg (Ne.symm differs)]
    exact find?_eq_none_of_take taken absent

theorem get?_rename_eq_none (wellFormed : Table.WellFormed row) (differs : name ≠ label)
    (absent : Table.get? row name = none) :
    Table.get? (rename row (column, label)) name = none := by
  rw [← find?_singleton] at absent ⊢
  exact find?_rename_eq_none wellFormed differs absent

theorem find?_segments_rename_eq_none (wellFormed : Table.WellFormed row)
    (differs : label ≠ first other) (absent : find? (segments other) (.object row) = none) :
    find? (segments other) (.object (rename row (column, label))) = none := by
  rcases exists_segments other with ⟨more, isPath⟩
  rw [isPath] at absent ⊢
  exact find?_rename_eq_none wellFormed (Ne.symm differs) absent

theorem columnValue?_rename_eq_none (wellFormed : Table.WellFormed row) (differs : label ≠ other)
    (firstDiffers : label ≠ first other) (gone : columnValue? row other = none) :
    columnValue? (rename row (column, label)) other = none := by
  rcases columnValue?_eq_none_iff.1 gone with ⟨absent, nowhere⟩
  exact columnValue?_eq_none_iff.2 ⟨get?_rename_eq_none wellFormed (Ne.symm differs) absent,
    find?_segments_rename_eq_none wellFormed firstDiffers nowhere⟩

/-- A dotted column that is in the row twice: as a member, and inside the objects. -/
def IsTwofold (row : Record) (column : String) : Prop :=
  isDotted column = true ∧ Table.get? row column ≠ none ∧
    find? (segments column) (.object row) ≠ none

instance (row : Record) (column : String) : Decidable (IsTwofold row column) :=
  inferInstanceAs (Decidable (_ ∧ _))

theorem not_isTwofold_rename (wellFormed : Table.WellFormed row) (differs : label ≠ other)
    (firstDiffers : label ≠ first other) (single : ¬IsTwofold row other) :
    ¬IsTwofold (rename row (column, label)) other := by
  rintro ⟨dotted, isMember, isInside⟩
  refine single ⟨dotted, fun absent => isMember ?_, fun nowhere => isInside ?_⟩
  · exact get?_rename_eq_none wellFormed (Ne.symm differs) absent
  · exact find?_segments_rename_eq_none wellFormed firstDiffers nowhere

/-- A column that has been renamed leads nowhere. -/
theorem columnValue?_rename_self (wellFormed : Table.WellFormed row) (differs : label ≠ column)
    (firstDiffers : label ≠ first column) (single : ¬IsTwofold row column) :
    columnValue? (rename row (column, label)) column = none := by
  rcases rename_cases row column label with
    ⟨same | gone, isNext⟩ | ⟨value, found, isNext⟩ | ⟨absent, value, rest, taken, isNext⟩
  · exact absurd same.symm differs
  · rwa [isNext]
  · have absent : Table.get? (rename row (column, label)) column = none := by
      rw [isNext, get?_renameMember_of_ne wellFormed (Ne.symm differs), if_pos rfl]
    refine columnValue?_eq_none_iff.2 ⟨absent, ?_⟩
    by_cases dotted : isDotted column = true
    · have nowhere : find? (segments column) (.object row) = none := by
        apply Classical.byContradiction
        exact fun isInside => single ⟨dotted, by simp [found], isInside⟩
      exact find?_segments_rename_eq_none wellFormed firstDiffers nowhere
    · rw [segments_of_plain dotted, find?_singleton, absent]
  · refine columnValue?_eq_none_iff.2
      ⟨get?_rename_eq_none wellFormed (Ne.symm differs) absent, ?_⟩
    have cut := find?_of_take_of_prefix taken List.prefix_rfl
    rcases exists_segments column with ⟨more, isPath⟩
    rw [isPath, find?_object] at cut ⊢
    rwa [isNext, Table.get?_put, if_neg firstDiffers]

/-- A name other than the label holds no object if it held none before. -/
theorem get?_rename_ne_object (wellFormed : Table.WellFormed row) (differs : name ≠ label)
    (noObject : ∀ inner, Table.get? row name ≠ some (.object inner)) (inner : Record) :
    Table.get? (rename row (column, label)) name ≠ some (.object inner) := by
  rcases rename_cases row column label with
    ⟨-, isNext⟩ | ⟨value, -, isNext⟩ | ⟨-, value, rest, taken, isNext⟩
  · rw [isNext]
    exact noObject inner
  · rw [isNext, get?_renameMember_of_ne wellFormed differs]
    split
    · nofun
    · exact noObject inner
  · rw [isNext, Table.get?_put, if_neg (Ne.symm differs)]
    rcases exists_segments column with ⟨more, isPath⟩
    rw [isPath] at taken
    by_cases isFirst : name = first column
    · subst isFirst
      rcases take_cons_eq_some taken with ⟨-, -, rfl⟩ | ⟨child, left, found, -, -⟩
      · rw [Table.get?_erase, if_pos rfl]
        nofun
      · exact absurd found (noObject child)
    · rw [get?_of_take taken isFirst]
      exact noObject inner

/-! ## What a list of renamings leaves -/

/-- No label brings back a column that a renaming takes away. -/
def SparesColumns (changes : List (String × String)) : Prop :=
  ∀ change ∈ changes, change.1 ≠ change.2 →
    ∀ other ∈ changes, other.2 ≠ change.1 ∧ other.2 ≠ first change.1

variable {changes : List (String × String)}

theorem get?_foldl_rename_ne_object (wellFormed : Table.WellFormed row)
    (differs : ∀ change ∈ changes, change.2 ≠ name)
    (noObject : ∀ inner, Table.get? row name ≠ some (.object inner)) (inner : Record) :
    Table.get? (changes.foldl rename row) name ≠ some (.object inner) := by
  induction changes generalizing row with
  | nil => exact noObject inner
  | cons change changes ih =>
    rcases List.forall_mem_cons.1 differs with ⟨differsHere, differsLater⟩
    exact ih (wellFormed_rename wellFormed change.1 change.2) differsLater
      (get?_rename_ne_object wellFormed (Ne.symm differsHere) noObject)

theorem columnValue?_foldl_rename_eq_none (wellFormed : Table.WellFormed row)
    (spared : ∀ change ∈ changes, change.2 ≠ column ∧ change.2 ≠ first column)
    (gone : columnValue? row column = none) :
    columnValue? (changes.foldl rename row) column = none := by
  induction changes generalizing row with
  | nil => exact gone
  | cons change changes ih =>
    rcases List.forall_mem_cons.1 spared with ⟨⟨differs, firstDiffers⟩, sparedLater⟩
    exact ih (wellFormed_rename wellFormed change.1 change.2) sparedLater
      (columnValue?_rename_eq_none wellFormed differs firstDiffers gone)

/-- After all renamings, the columns that were renamed lead nowhere. -/
theorem columnValue?_foldl_rename (spares : SparesColumns changes)
    (wellFormed : Table.WellFormed row)
    (single : ∀ change ∈ changes, change.1 ≠ change.2 → ¬IsTwofold row change.1) :
    ∀ change ∈ changes, change.1 ≠ change.2 →
      columnValue? (changes.foldl rename row) change.1 = none := by
  induction changes generalizing row with
  | nil => exact List.forall_mem_nil _
  | cons change changes ih =>
    rcases List.forall_mem_cons.1 spares with ⟨sparesHere, sparesLater⟩
    rcases List.forall_mem_cons.1 single with ⟨singleHere, singleLater⟩
    have wellFormedNext := wellFormed_rename wellFormed change.1 change.2
    refine List.forall_mem_cons.2 ⟨?_, ?_⟩
    · intro differs
      rcases List.forall_mem_cons.1 (sparesHere differs) with ⟨⟨notColumn, notFirst⟩, spared⟩
      have gone := columnValue?_rename_self wellFormed notColumn notFirst (singleHere differs)
      rw [List.foldl_cons]
      exact columnValue?_foldl_rename_eq_none wellFormedNext spared gone
    · have sparesRest : SparesColumns changes := fun other isOther differs =>
        (List.forall_mem_cons.1 (sparesLater other isOther differs)).2
      refine ih sparesRest wellFormedNext fun other isOther differs => ?_
      have spared := sparesLater other isOther differs change List.mem_cons_self
      exact not_isTwofold_rename wellFormed spared.1 spared.2 (singleLater other isOther differs)

theorem rename_of_gone (gone : column ≠ label → columnValue? row column = none) :
    rename row (column, label) = row := by
  by_cases same : column = label
  · rw [rename, if_pos same]
  rcases rename_cases row column label with
    ⟨-, isNext⟩ | ⟨value, found, -⟩ | ⟨-, value, rest, taken, -⟩
  · exact isNext
  · rw [(columnValue?_eq_none_iff.1 (gone same)).1] at found
    cases found
  · have inside : (take (segments column) row).map (·.1) = none :=
      (map_fst_take (Text.split_ne_nil column)).trans (columnValue?_eq_none_iff.1 (gone same)).2
    rw [taken] at inside
    cases inside

theorem foldl_rename_of_gone
    (gone : ∀ change ∈ changes, change.1 ≠ change.2 → columnValue? row change.1 = none) :
    changes.foldl rename row = row := by
  induction changes with
  | nil => rfl
  | cons change changes ih =>
    rcases List.forall_mem_cons.1 gone with ⟨goneHere, goneLater⟩
    rw [List.foldl_cons, rename_of_gone goneHere]
    exact ih goneLater

/-- Renamings that spare their columns have nothing left to do in a row that they have gone over. -/
theorem foldl_rename_foldl_rename (spares : SparesColumns changes)
    (wellFormed : Table.WellFormed row)
    (single : ∀ change ∈ changes, change.1 ≠ change.2 → ¬IsTwofold row change.1) :
    changes.foldl rename (changes.foldl rename row) = changes.foldl rename row :=
  foldl_rename_of_gone (columnValue?_foldl_rename spares wellFormed single)

end Row

theorem Hit.rows_of_plain {rows : List Record}
    (plain : ∀ row ∈ rows, ∀ inner, Table.get? row "_source" ≠ some (.object inner)) :
    Hit.rows (rows.map .object) = rows := by
  induction rows with
  | nil => rfl
  | cons row rows ih =>
    rcases List.forall_mem_cons.1 plain with ⟨plainHere, plainLater⟩
    have noSource : ((Json.object row).member? "_source").bind Json.asRecord? = none :=
      Json.bind_asRecord?_eq_none_iff.2 plainHere
    have isRow : Hit.row? (.object row) = some row := by
      rw [Hit.row?, noSource]
      rfl
    rw [List.map_cons, Hit.rows, List.filterMap_cons_some isRow, ← Hit.rows, ih plainLater]

namespace Page

/-- Labels and hits with which nothing that has been renamed comes back. -/
structure Repeatable (select : List SelectItem) (found : List Json) : Prop where
  /-- No object has a name twice, which the type of rows does not say. -/
  wellFormed : ∀ row ∈ Hit.rows found, Table.WellFormed row
  columns : ∀ change ∈ renamings select, ∀ other ∈ renamings select,
    change ≠ other → change.2 ≠ other.1
  objects : ∀ change ∈ renamings select, ∀ other ∈ renamings select,
    Path.isDotted other.1 = true → change.2 ≠ Path.first other.1
  labels : ∀ change ∈ renamings select, change.2 ≠ "_source"
  sources : ∀ row ∈ Hit.rows found, ∀ inner, Table.get? row "_source" ≠ some (.object inner)
  single : ∀ row ∈ Hit.rows found, ∀ change ∈ renamings select, ¬Row.IsTwofold row change.1

variable {select : List SelectItem} {found : List Json}

theorem Repeatable.sparesColumns (repeatable : Repeatable select found) :
    Row.SparesColumns (renamings select) := by
  intro change isChange differs other isOther
  have notColumn : other.2 ≠ change.1 := by
    by_cases same : other = change
    · rw [same]
      exact Ne.symm differs
    · exact repeatable.columns other isOther change isChange same
  refine ⟨notColumn, ?_⟩
  by_cases dotted : Path.isDotted change.1 = true
  · exact repeatable.objects other isOther change isChange dotted
  · rwa [Path.first, Path.segments_of_plain dotted]

/-- The rows of rows are those rows, with the same names in the same order. -/
theorem rows_hits_rows (repeatable : Repeatable select found) (scrollId scrollId' : Option String)
    (total total' : Option Nat) :
    let rows := (Page.hits found scrollId total).rows select
    (Page.hits (rows.map .object) scrollId' total').rows select = rows := by
  intro rows
  have isRows : rows = (Hit.rows found).map (Row.withLabels select) := rfl
  have readAgain : Hit.rows (rows.map .object) = rows := by
    refine Hit.rows_of_plain fun row isRow => ?_
    rcases List.mem_map.1 (isRows ▸ isRow) with ⟨source, isSource, rfl⟩
    exact Row.get?_foldl_rename_ne_object (repeatable.wellFormed source isSource)
      repeatable.labels (repeatable.sources source isSource)
  calc (Hit.rows (rows.map .object)).map (Row.withLabels select)
      = rows.map (Row.withLabels select) := by rw [readAgain]
    _ = (Hit.rows found).map fun source =>
          Row.withLabels select (Row.withLabels select source) := by
        rw [isRows, List.map_map]
        rfl
    _ = rows := by
        refine List.map_congr_left fun source isSource => ?_
        exact Row.foldl_rename_foldl_rename repeatable.sparesColumns
          (repeatable.wellFormed source isSource)
          fun change isChange _ => repeatable.single source isSource change isChange

/--
Two columns take the same label, and a third is the object that both are cut out of; the second hit
has one of them as a member and is a row as it stands.
-/
theorem rows_hits_rows_of_area :
    let select : List SelectItem := [⟨.field "area", none⟩, ⟨.dot, none⟩,
      ⟨.field "town", some "place"⟩, ⟨.field "area.code", some "place"⟩,
      ⟨.field "area", some "rest"⟩]
    let source : Record := [("area", .object [("town", .string "Oporto"), ("code", .bool true)]),
      ("name", .string "Ana")]
    let flat : Record := [("area.code", .bool false),
      ("area", .object [("town", .string "Braga"), ("coast", .null)])]
    let found : List Json := [.object [("_source", .object source)], .object flat, .null]
    let rows : List Record := [[("name", .string "Ana"), ("place", .bool true)],
      [("place", .string "Braga"), ("rest", .object [("coast", .null)])]]
    Repeatable select found ∧ (Page.hits found none (some 2)).rows select = rows ∧
      (Page.hits (rows.map .object) none none).rows select = rows := by
  intro select source flat found rows
  have isRows : (Page.hits found none (some 2)).rows select = rows := by rfl
  have noSource : ∀ row ∈ [source, flat], ∀ inner,
      Table.get? row "_source" ≠ some (.object inner) := by
    simp [source, flat]
  have repeatable : Repeatable select found :=
    ⟨by decide +kernel, by decide +kernel, by decide +kernel, by decide +kernel, noSource,
      by decide +kernel⟩
  refine ⟨repeatable, isRows, ?_⟩
  have again := rows_hits_rows repeatable none none (some 2) none
  rwa [isRows] at again

end Page

end SearchSql
