import SearchSql.Page
import SearchSql.Proofs.Query.Fields
import SearchSql.Proofs.Query.Labels
import SearchSql.Proofs.Row.ColumnName
import SearchSql.Proofs.Row.Paths
import Mathlib.Data.List.Forall2

/-!
# Labels of grouped fields

A query that groups by the label of a field is prepared into one that groups by the field, or by its
keyword field, and the aggregation comes back under that name. Its column is renamed by looking for
the field as it stands in the select list. So the label reaches the rows exactly when the column
goes by the name of the field; otherwise the rows keep the column of the aggregation.
-/

namespace SearchSql

namespace SelectUnit

/-- The unit selects the field of a path under a label. -/
inductive Selects : SelectUnit → (path label : String) → Prop
  | plain (path label : String) : Selects (.single ⟨.field path, some label⟩) path label
  | dotted (base sub label : String) :
      Selects (.path ⟨.field base, none⟩ base ⟨.field sub, some label⟩) (dotted base sub) label

variable {unit : SelectUnit} {units : List SelectUnit} {path label : String}

theorem Selects.regular (selects : Selects unit path label) : unit.Regular := by
  cases selects with
  | plain => simp [Regular]
  | dotted base sub => exact ⟨rfl, sub, rfl⟩

theorem Selects.renaming (selects : Selects unit path label) :
    unit.renaming? = some (path, label) := by
  cases selects <;> rfl

theorem renaming_of_unlabelled (unlabelled : unit.label = none) : unit.renaming? = none := by
  simp [renaming?, unlabelled]

theorem label_of_mem_items (unlabelled : ∀ unit ∈ units, unit.label = none) {item : SelectItem}
    (isItem : item ∈ units.flatMap items) : item.label = none := by
  rcases List.mem_flatMap.1 isItem with ⟨unit, isUnit, isOne⟩
  have none := unlabelled unit isUnit
  cases unit with
  | path base basePath sub =>
    rw [label, Option.or_eq_none_iff] at none
    simp only [items, List.mem_cons, List.not_mem_nil, or_false] at isOne
    rcases isOne with rfl | rfl | rfl
    · exact none.2
    · rfl
    · exact none.1
  | single item =>
    rw [items, List.mem_singleton] at isOne
    exact isOne ▸ none

end SelectUnit

open SelectUnit

section Group

variable {before after : List SelectUnit} {unit : SelectUnit} {path label : String}

/-- The select list has the unit as its only one with a label. -/
structure OnlyLabelled (before : List SelectUnit) (unit : SelectUnit) (after : List SelectUnit) :
    Prop where
  regular : ∀ other ∈ before ++ unit :: after, other.Regular
  unlabelledBefore : ∀ other ∈ before, other.label = none
  unlabelledAfter : ∀ other ∈ after, other.label = none

theorem renamings_of_only (selects : Selects unit path label)
    (only : OnlyLabelled before unit after) :
    renamings ((before ++ unit :: after).flatMap items) = [(path, label)] := by
  rw [renamings, ofItems_flatMap_items only.regular, List.filterMap_append, List.filterMap_cons,
    selects.renaming]
  have noneBefore : before.filterMap renaming? = [] :=
    List.filterMap_eq_nil_iff.2 fun other isOther =>
      renaming_of_unlabelled (only.unlabelledBefore other isOther)
  have noneAfter : after.filterMap renaming? = [] :=
    List.filterMap_eq_nil_iff.2 fun other isOther =>
      renaming_of_unlabelled (only.unlabelledAfter other isOther)
  rw [noneBefore, noneAfter]
  rfl

theorem resolveLabel_of_only (selects : Selects unit path label)
    (only : OnlyLabelled before unit after) :
    resolveLabel ((before ++ unit :: after).flatMap items) label = some (.field path) := by
  have unlabelled : ∀ item ∈ before.flatMap items, item.label ≠ some label := by
    intro item isItem
    rw [label_of_mem_items only.unlabelledBefore isItem]
    exact nofun
  have regular : ∀ other ∈ before, other.Regular := fun other isOther =>
    only.regular other (List.mem_append_left _ isOther)
  rw [List.flatMap_append, List.flatMap_cons]
  cases selects with
  | plain => exact resolveLabel_single regular unlabelled rfl (after.flatMap items)
  | dotted base sub => exact resolveLabel_path unlabelled rfl (after.flatMap items)

/-- The field that a path of the select list is grouped by. -/
def groupedField (mapping : Mapping) (path : String) : String :=
  if !isKeywordField path && mapping.isText path then path ++ keywordEnding else path

theorem asKeyword_field (mapping : Mapping) (path : String) :
    (Node.field path).asKeyword mapping = .field (groupedField mapping path) := by
  simp only [Node.asKeyword, groupedField]
  split <;> rfl

theorem columnName_groupedField (mapping : Mapping) {path : String}
    (isColumn : columnName path = path) : columnName (groupedField mapping path) = path := by
  unfold groupedField
  split
  · exact columnName_keyword isColumn
  · exact isColumn

end Group

namespace Bucket

/-- A bucket that carries its key and how many documents it stands for, and nothing else. -/
def Counts (bucket key : Json) : Prop :=
  ∃ members, bucket = .object members ∧ Table.get? members "key" = some key ∧
    ∀ member ∈ members, member.1 = "key" ∨ member.1 = "doc_count"

theorem contents_of_counts {members : Record}
    (described : ∀ member ∈ members, member.1 = "key" ∨ member.1 = "doc_count") :
    contents members = [] := by
  rw [contents, List.filter_eq_nil_iff]
  intro member isMember
  rcases described member isMember with isKey | isCount
  · simp [isDescription, isKey]
  · simp [isDescription, isCount]

theorem key_of_counts {members : Record} {value : Json}
    (isKey : Table.get? members "key" = some value)
    (described : ∀ member ∈ members, member.1 = "key" ∨ member.1 = "doc_count") :
    key members = value := by
  have noText : Table.get? members "key_as_string" = none := by
    rw [Table.get?, Option.map_eq_none_iff, List.find?_eq_none]
    intro member isMember
    rcases described member isMember with isKey | isCount
    · simp [isKey]
    · simp [isCount]
  rw [key, noText, isKey]
  rfl

theorem rows_of_counts (column : String) {buckets keys : List Json}
    (counts : List.Forall₂ Counts buckets keys) :
    rows column buckets = keys.map fun key => [(column, key)] := by
  induction counts with
  | nil => rw [rows]; rfl
  | @cons bucket value _ _ here later ih =>
    rcases here with ⟨members, rfl, isKey, described⟩
    have noEntries := contents_of_counts described
    rw [rows_cons_leaf column _ (by rw [noEntries]; rfl), noEntries,
      key_of_counts isKey described, ih]
    rfl

theorem rowsOf_of_counts {field : String} {terms : Json} {buckets keys : List Json}
    (has : HasBuckets terms buckets) (counts : List.Forall₂ Counts buckets keys) :
    rowsOf [(field, terms)] = keys.map fun key => [(columnName field, key)] := by
  have isLevel : level? field terms = some (field, buckets) := level?_eq_some_iff.2 (.direct has)
  rw [rowsOf, outermostLevel?, List.findSome?_cons, isLevel]
  exact rows_of_counts _ counts

end Bucket

namespace Row

theorem rename_of_column (column label : String) (value : Json) :
    rename [(column, value)] (column, label) = [(label, value)] := by
  unfold rename
  by_cases same : column = label
  · simp [same]
  · simp [same, Table.has, renameMember, Table.ofEntries, Table.putAll, Table.put]

theorem take_of_other {column path : String} {value : Json} (differs : column ≠ path)
    (scalar : value.asRecord? = none) :
    Path.take (Path.segments path) [(column, value)] = none := by
  have whole := Text.intercalate_splitChars '.' path.toList
  unfold Path.segments Text.split
  generalize Text.splitChars '.' path.toList = parts at whole ⊢
  match parts with
  | [] => rfl
  | [part] =>
    have isPath : String.ofList part = path := by
      simpa [List.intercalate] using congrArg String.ofList whole
    simp [Path.take, isPath, differs]
  | part :: next :: more =>
    by_cases isFirst : column = String.ofList part
    · simp [Path.take, isFirst, scalar]
    · simp [Path.take, isFirst]

theorem rename_of_other {column path label : String} {value : Json} (differs : column ≠ path)
    (scalar : value.asRecord? = none) :
    rename [(column, value)] (path, label) = [(column, value)] := by
  have absent : Table.has [(column, value)] path = false := by simp [Table.has, differs]
  simp only [rename, absent, take_of_other differs scalar, Bool.false_eq_true, if_false, ite_self]

end Row

section Labelled

variable {mapping : Mapping} {query : Query} {before after : List SelectUnit} {unit : SelectUnit}
  {path label : String}

theorem group_of_label (selects : Selects unit path label) (only : OnlyLabelled before unit after)
    (isSelect : query.select = (before ++ unit :: after).flatMap items)
    (isGroup : query.group = [.field label]) :
    (query.prepare mapping).group = [.field (groupedField mapping path)] := by
  have resolved := resolveLabel_of_only selects only
  rw [← isSelect] at resolved
  rw [Query.group_prepare, isGroup, List.map_singleton]
  simp only [groupTerm, resolved, Option.getD_some, gridOf?, Option.getD_none, asKeyword_field]

theorem rows_of_label (selects : Selects unit path label) (only : OnlyLabelled before unit after)
    (isSelect : query.select = (before ++ unit :: after).flatMap items)
    {field : String} {terms : Json} {buckets keys : List Json} {scrollId : Option String}
    (has : Bucket.HasBuckets terms buckets) (counts : List.Forall₂ Bucket.Counts buckets keys) :
    (Page.aggregations [(field, terms)] scrollId).rows query.select =
      keys.map fun key => Row.rename [(columnName field, key)] (path, label) := by
  have isRenaming := renamings_of_only selects only
  rw [← isSelect] at isRenaming
  simp only [Page.rows, Bucket.rowsOf_of_counts has counts, List.map_map]
  refine List.map_congr_left fun key _ => ?_
  simp only [Function.comp_apply, Row.withLabels, isRenaming, List.foldl_cons, List.foldl_nil]

/--
A grouping by the label of a field groups by the field or its keyword field, and its rows carry the
keys under the label if the column of the aggregation goes by the name of the field. Otherwise they
carry them under that column, keys that are objects aside.
-/
theorem rows_of_grouped_label (selects : Selects unit path label)
    (only : OnlyLabelled before unit after)
    (isSelect : query.select = (before ++ unit :: after).flatMap items)
    (isGroup : query.group = [.field label]) :
    (query.prepare mapping).group = [.field (groupedField mapping path)] ∧
    (columnName path = path → columnName (groupedField mapping path) = path) ∧
    ∀ (terms : Json) (buckets keys : List Json) (scrollId : Option String),
      Bucket.HasBuckets terms buckets → List.Forall₂ Bucket.Counts buckets keys →
      let rows := (Page.aggregations [(groupedField mapping path, terms)] scrollId).rows query.select
      (columnName (groupedField mapping path) = path →
        rows = keys.map fun key => [(label, key)]) ∧
      (columnName (groupedField mapping path) ≠ path →
        (∀ key ∈ keys, key.asRecord? = none) →
        rows = keys.map fun key => [(columnName (groupedField mapping path), key)]) := by
  refine ⟨group_of_label selects only isSelect isGroup, columnName_groupedField mapping, ?_⟩
  intro terms buckets keys scrollId has counts
  rw [rows_of_label selects only isSelect has counts]
  constructor
  · intro isColumn
    rw [isColumn]
    exact List.map_congr_left fun key _ => Row.rename_of_column path label key
  · intro differs scalar
    exact List.map_congr_left fun key isKey => Row.rename_of_other differs (scalar key isKey)

/-- One bucket of a grouping by countries. -/
def countries : Json :=
  .object [("buckets", .array [
    .object [("key", .string "COL"), ("doc_count", .number (.integer 2))]])]

theorem countries_counts :
    List.Forall₂ Bucket.Counts
      [.object [("key", .string "COL"), ("doc_count", .number (.integer 2))]] [.string "COL"] :=
  .cons ⟨_, rfl, rfl, by simp⟩ .nil

theorem onlyLabelled_singleton (selects : Selects unit path label) : OnlyLabelled [] unit [] where
  regular := by simpa using selects.regular
  unlabelledBefore := by simp
  unlabelledAfter := by simp

end Labelled

theorem rows_of_grouped_text :
    let query : Query :=
      { select := [⟨.field "name", some "n"⟩], index := "t", group := [.field "n"] }
    (query.prepare [("name", .text)]).group = [.field "name.keyword"] ∧
      (Page.aggregations [("name.keyword", countries)] none).rows query.select =
        [[("n", .string "COL")]] := by
  intro query
  have selects := Selects.plain "name" "n"
  have isColumn : columnName "name" = "name" := by decide +kernel
  rcases @rows_of_grouped_label [("name", .text)] query [] [] _ _ _ selects
    (onlyLabelled_singleton selects) rfl rfl with ⟨isGroup, keepsColumn, isRows⟩
  have isField : groupedField [("name", .text)] "name" = "name.keyword" := by decide +kernel
  rw [isField] at isGroup keepsColumn isRows
  exact ⟨isGroup, (isRows countries _ _ none rfl countries_counts).1 (keepsColumn isColumn)⟩

/-- A field that is selected by its keyword field loses the label: its column drops the ending. -/
theorem rows_of_grouped_keyword :
    let query : Query :=
      { select := [⟨.field "name", none⟩, ⟨.dot, none⟩, ⟨.field "keyword", some "n"⟩]
        index := "t"
        group := [.field "n"] }
    (query.prepare []).group = [.field "name.keyword"] ∧
      (Page.aggregations [("name.keyword", countries)] none).rows query.select =
        [[("name", .string "COL")]] ∧
      (Page.aggregations [("name.keyword", countries)] none).rows query.select ≠
        [[("n", .string "COL")]] := by
  intro query
  have selects := Selects.dotted "name" "keyword" "n"
  have only := onlyLabelled_singleton selects
  have isPath : dotted "name" "keyword" = "name.keyword" := by decide
  have isColumn : columnName "name.keyword" = "name" := by decide +kernel
  have isField : groupedField [] "name.keyword" = "name.keyword" := by decide +kernel
  have isGroup := @group_of_label [] query [] [] _ _ _ selects only rfl rfl
  have isRows := @rows_of_label query [] [] _ _ _ selects only rfl "name.keyword" countries _ _ none
    rfl countries_counts
  rw [isPath, isField] at isGroup
  rw [isPath, isColumn, List.map_singleton, Row.rename_of_other (by decide) rfl] at isRows
  exact ⟨isGroup, isRows, by simp [isRows]⟩

end SearchSql
