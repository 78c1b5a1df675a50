import SearchSql.Output.Encoder
import SearchSql.Page
import SearchSql.Proofs.Query.Columns
import SearchSql.Proofs.Row.Renaming

/-!
# Cells of selected fields

The record of a search hit has one cell for every selected field, with what the source of the hit
has under its path. Fields with a label are taken out of the source before the cells are read, so
that neither fields nor labels may overlap; how far that suffices is said in `SelectsFields`.

The renamings are followed as a whole (`Row.Relabels`); what is left is one case for the units with
a label and one for those without.
-/

namespace SearchSql

open SearchSql.Path

/-- The unit is a field by its own name, or as what is selected below another field. -/
def SelectUnit.IsField : SelectUnit → Prop
  | .path _ _ sub => sub.selection ≠ .wildcard
  | .single item => ∃ path, item.selection = .field path

def selectedPaths (select : List SelectItem) : List String :=
  (SelectUnit.ofItems select).filterMap SelectUnit.column?

def selectedLabels (select : List SelectItem) : List String :=
  (SelectUnit.ofItems select).filterMap SelectUnit.label

/--
The select list consists of fields that do not overlap, under labels that neither overlap nor clash
with a field or with a member of the source.
-/
structure SelectsFields (select : List SelectItem) (source : Record) : Prop where
  fields : ∀ unit ∈ SelectUnit.ofItems select, unit.IsField
  paths : Separate (selectedPaths select)
  labels : Separate (selectedLabels select)
  new : ∀ label ∈ selectedLabels select,
    label ∉ Table.names source ∧ first label ∉ Table.names source
  clear : ∀ label ∈ selectedLabels select, ∀ path ∈ selectedPaths select,
    label ≠ path ∧ label ≠ first path

variable {select : List SelectItem} {source : Record} {unit : SelectUnit} {path label : String}

theorem SelectUnit.IsField.exists_column (isField : unit.IsField) :
    ∃ path, unit.column? = some path := by
  cases unit with
  | path base basePath sub => exact ⟨_, rfl⟩
  | single item =>
    rcases item with ⟨selection, label⟩
    rcases isField with ⟨path, rfl⟩
    exact ⟨path, rfl⟩

theorem SelectUnit.renaming?_eq_some_iff :
    unit.renaming? = some (path, label) ↔ unit.column? = some path ∧ unit.label = some label := by
  cases column : unit.column? <;> cases isLabel : unit.label <;>
    simp [renaming?, column, isLabel]

theorem outputColumns_eq_none_iff (fields : ∀ unit ∈ SelectUnit.ofItems select, unit.IsField) :
    outputColumns select = none ↔ select = [] := by
  have noWildcard : select.any SelectItem.isWildcard = false := by
    fun_induction SelectUnit.ofItems select with
    | case1 => rfl
    | case2 basePath label dotLabel sub rest ih =>
      rcases List.forall_mem_cons.1 fields with ⟨here, later⟩
      have noWildcard : sub.isWildcard = false := by
        rcases sub with ⟨_ | _ | _ | _, _⟩ <;> first | rfl | exact absurd rfl here
      simp only [List.any_cons, noWildcard, ih later]
      rfl
    | case3 item rest notPath ih =>
      rcases List.forall_mem_cons.1 fields with ⟨⟨path, isPath⟩, later⟩
      simp only [List.any_cons, ih later, SelectItem.isWildcard, isPath]
      rfl
  simp [outputColumns, noWildcard]

namespace SelectsFields

theorem mem_paths (isUnit : unit ∈ SelectUnit.ofItems select) (isPath : unit.column? = some path) :
    path ∈ selectedPaths select := List.mem_filterMap.2 ⟨unit, isUnit, isPath⟩

theorem mem_labels (isUnit : unit ∈ SelectUnit.ofItems select) (isLabel : unit.label = some label) :
    label ∈ selectedLabels select := List.mem_filterMap.2 ⟨unit, isUnit, isLabel⟩

theorem mem_renamings (change : String × String) :
    change ∈ renamings select ↔
      ∃ unit ∈ SelectUnit.ofItems select, unit.column? = some change.1 ∧
        unit.label = some change.2 := by
  rcases change with ⟨path, label⟩
  simp only [renamings, List.mem_filterMap, SelectUnit.renaming?_eq_some_iff]

theorem harmless (selects : SelectsFields select source) : Row.Harmless (renamings select) := by
  refine ⟨?_, ?_, ?_⟩
  · rw [renamings, List.pairwise_filterMap]
    refine selects.paths.pairwise.imp ?_
    intro unit other apart change isChange otherChange isOther
    exact apart change.1 (SelectUnit.renaming?_eq_some_iff.1 isChange).1 otherChange.1
      (SelectUnit.renaming?_eq_some_iff.1 isOther).1
  · rw [renamings, List.pairwise_filterMap]
    refine selects.labels.pairwise.imp ?_
    intro unit other apart change isChange otherChange isOther
    exact (ne_of_apart <| apart change.2 (SelectUnit.renaming?_eq_some_iff.1 isChange).2
      otherChange.2 (SelectUnit.renaming?_eq_some_iff.1 isOther).2).symm
  · intro change isChange other isOther
    rcases mem_renamings change |>.1 isChange with ⟨unit, isUnit, -, isLabel⟩
    rcases mem_renamings other |>.1 isOther with ⟨unit', isUnit', isPath, -⟩
    exact selects.clear _ (mem_labels isUnit isLabel) _ (mem_paths isUnit' isPath)

theorem relabels (selects : SelectsFields select source) (wellFormed : Table.WellFormed source) :
    Row.Relabels source (Row.withLabels select source) (renamings select) := by
  refine Row.relabels_foldl selects.harmless wellFormed ?_
  intro change isChange
  rcases mem_renamings change |>.1 isChange with ⟨unit, isUnit, -, isLabel⟩
  exact (selects.new _ (mem_labels isUnit isLabel)).1

/-- A field with a label goes by the label, and one that is missing leads nowhere. -/
theorem columnValue?_label (selects : SelectsFields select source)
    (wellFormed : Table.WellFormed source) (isUnit : unit ∈ SelectUnit.ofItems select)
    (isPath : unit.column? = some path) (isLabel : unit.label = some label) :
    columnValue? (Row.withLabels select source) label = columnValue? source path := by
  have relabels := selects.relabels wellFormed
  have moved := relabels.moved (path, label) <| (mem_renamings _).2 ⟨unit, isUnit, isPath, isLabel⟩
  have known := mem_labels isUnit isLabel
  rw [columnValue?, moved]
  cases found : columnValue? source path with
  | some value => rfl
  | none =>
    rw [found] at moved
    rcases exists_segments label with ⟨more, isSegments⟩
    rw [isSegments, find?_object, Option.none_or]
    have missing : Table.get? (Row.withLabels select source) (first label) = none := by
      by_cases same : first label = label
      · rw [same, moved]
      · rw [Table.get?_eq_none_iff]
        intro isName
        rcases relabels.names _ isName with inSource | ⟨change, isChange, isFirst⟩
        · exact (selects.new label known).2 inSource
        · -- the label would lie below another one
          rcases (mem_renamings change).1 isChange with ⟨other, isOther, -, otherLabel⟩
          have below : segments change.2 <+: segments label := by
            rw [← isFirst, segments_first, isSegments]
            exact List.cons_prefix_cons.2 ⟨rfl, List.nil_prefix⟩
          have differs : unit ≠ other := by
            rintro rfl
            rw [isLabel, Option.some.injEq] at otherLabel
            exact same (isFirst.trans otherLabel.symm)
          exact (selects.labels.apart isUnit isOther differs isLabel otherLabel).2 below
    rw [missing]
    rfl

/-- A field without a label stays where it is. -/
theorem columnValue?_path (selects : SelectsFields select source)
    (wellFormed : Table.WellFormed source) (isUnit : unit ∈ SelectUnit.ofItems select)
    (isPath : unit.column? = some path) (unlabelled : unit.label = none) :
    columnValue? (Row.withLabels select source) path = columnValue? source path := by
  refine (selects.relabels wellFormed).apart path ?_
  intro change isChange
  rcases (mem_renamings change).1 isChange with ⟨other, isOther, otherPath, otherLabel⟩
  have clear := selects.clear _ (mem_labels isOther otherLabel) _ (mem_paths isUnit isPath)
  refine ⟨clear.1.symm, clear.2.symm, selects.paths.apart isOther isUnit ?_ otherPath isPath⟩
  rintro rfl
  rw [unlabelled] at otherLabel
  cases otherLabel

theorem columns_ne_nil (selects : SelectsFields select source) {columns : List String}
    (isColumns : outputColumns select = some columns) : columns ≠ [] := by
  have nonempty : select ≠ [] := by
    rintro rfl
    cases isColumns
  rcases List.exists_mem_of_ne_nil _ (SelectUnit.ofItems_ne_nil nonempty) with ⟨unit, isUnit⟩
  rcases (selects.fields unit isUnit).exists_column with ⟨path, isPath⟩
  have isColumn : unit.outputColumn? = some (unit.label.getD path) := by
    rw [SelectUnit.outputColumn?, isPath]
    rfl
  rw [outputColumns_eq_some isColumns]
  exact List.ne_nil_of_mem (List.mem_filterMap.2 ⟨unit, isUnit, isColumn⟩)

/-- Unit by unit, the cell under a column holds the field that was selected. -/
theorem cells_withLabels (selects : SelectsFields select source)
    (wellFormed : Table.WellFormed source) {columns : List String}
    (isColumns : outputColumns select = some columns) :
    Csv.cells columns (Row.withLabels select source) =
      (selectedPaths select).map fun path => Csv.cell (columnValue? source path) := by
  rw [outputColumns_eq_some isColumns, Csv.cells, selectedPaths, List.map_filterMap,
    List.map_filterMap]
  refine List.filterMap_congr fun unit isUnit => ?_
  cases isPath : unit.column? with
  | none => simp [SelectUnit.outputColumn?, isPath]
  | some path =>
    cases isLabel : unit.label with
    | none =>
      simp [SelectUnit.outputColumn?, isPath, isLabel,
        selects.columnValue?_path wellFormed isUnit isPath isLabel]
    | some label =>
      simp [SelectUnit.outputColumn?, isPath, isLabel,
        selects.columnValue?_label wellFormed isUnit isPath isLabel]

end SelectsFields

/--
The record of a hit holds the selected fields, each as it stands in the source: under the name of
the whole path, else where the path leads. Only an empty select list has no columns.
-/
theorem encode_selected (selects : SelectsFields select source)
    (wellFormed : Table.WellFormed source) {hit : Json}
    (isSource : hit.member? "_source" = some (.object source)) (scrollId : Option String)
    (total : Option Nat) (download : Bool) (metadata : Option Json) (more : Bool) :
    (outputColumns select = none ↔ select = []) ∧
    ∀ columns, outputColumns select = some columns →
      ∃ next, Encoder.encode { format := .csv, download, metadata, columns }
        ((Page.hits [hit] scrollId total).rows select) more =
          .ok (Csv.recordText columns ++ Csv.recordText ((selectedPaths select).map fun path =>
            Csv.cell (columnValue? source path)), next) := by
  refine ⟨outputColumns_eq_none_iff selects.fields, ?_⟩
  intro columns isColumns
  have isRow : (Page.hits [hit] scrollId total).rows select = [Row.withLabels select source] := by
    simp [Page.rows, Hit.rows, Hit.row?, isSource, Json.asRecord?]
  rw [isRow, ← selects.cells_withLabels wellFormed isColumns]
  simp [Encoder.encode, Encoder.encodeCsv, selects.columns_ne_nil isColumns]

/--
One field is cut out of an object from which another is read later, one is missing, and one has its
whole path for a name.
-/
theorem encode_selected_shared :
    let select : List SelectItem := [⟨.field "a", none⟩, ⟨.dot, none⟩, ⟨.field "b", some "p.q"⟩,
      ⟨.field "a.c", none⟩, ⟨.field "m.n", some "x"⟩, ⟨.field "d", none⟩, ⟨.dot, none⟩,
      ⟨.field "e", some "y"⟩]
    let source : Record := [("a", .object [("b", .string "one"), ("c", .string "two")]),
      ("d.e", .array [.null])]
    let page : Page := .hits [.object [("_source", .object source)]] none none
    let encoder : Encoder := { format := .csv, columns := ["p.q", "a.c", "x", "y"] }
    SelectsFields select source ∧ Table.WellFormed source ∧
      ∃ next, encoder.encode (page.rows select) true =
        .ok ("p.q,a.c,x,y\none,two,,[null]\n", next) := by
  intro select source page encoder
  have fields : ∀ unit ∈ SelectUnit.ofItems select, unit.IsField := by
    simp [select, SelectUnit.ofItems, SelectUnit.IsField]
  have selects : SelectsFields select source :=
    ⟨fields, by decide +kernel, by decide +kernel, by decide +kernel, by decide +kernel⟩
  have wellFormed : Table.WellFormed source := by decide +kernel
  have isSource : Json.member? (.object [("_source", .object source)]) "_source" =
      some (.object source) := rfl
  rcases (encode_selected selects wellFormed isSource none none false none true).2 encoder.columns
    (by decide +kernel) with ⟨next, encodes⟩
  refine ⟨selects, wellFormed, next, encodes.trans ?_⟩
  refine congrArg (fun text => Except.ok (text, next)) ?_
  decide +kernel

end SearchSql
