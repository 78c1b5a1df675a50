import SearchSql.Proofs.Query.Fields
import SearchSql.Proofs.Query.Units
import SearchSql.Query.SqlText

/-!
# Columns of select lists

A select list without a wildcard says which columns its rows have. There is one at least if the
query can be written as SQL text, since a dot that belongs to no field cannot be written. Preparing
a query changes arguments of selected functions only, and so neither adds nor removes a dot.
-/

namespace SearchSql

variable {select : List SelectItem} {columns : List String}

theorem outputColumns_eq_some (isColumns : outputColumns select = some columns) :
    columns = (SelectUnit.ofItems select).filterMap SelectUnit.outputColumn? := by
  unfold outputColumns at isColumns
  split at isColumns
  · cases isColumns
  · exact (Option.some.inj isColumns).symm

theorem exists_outputColumns (nonempty : select ≠ [])
    (noWildcard : ∀ item ∈ select, item.selection ≠ .wildcard) :
    ∃ columns, outputColumns select = some columns := by
  have without : select.any SelectItem.isWildcard = false := by
    rw [List.any_eq_false]
    intro item isItem isWildcard
    unfold SelectItem.isWildcard at isWildcard
    split at isWildcard
    next found => exact noWildcard item isItem found
    next => cases isWildcard
  exact ⟨_, by simp [outputColumns, nonempty, without]; rfl⟩

namespace Query

variable {query : Query}

/-- A select list that is written as SQL text does not begin with a dot. -/
theorem selection_ne_dot_of_toSql (keeps : query.delete = false) {mapping : Mapping} {sql : String}
    (writes : (query.prepare mapping).toSql = .ok sql) {item : SelectItem} {rest : List SelectItem}
    (isSelect : query.select = item :: rest) : item.selection ≠ .dot := by
  intro isDot
  have first : ∃ label more, (query.prepare mapping).select = ⟨.dot, label⟩ :: more := by
    rcases item with ⟨selection, label⟩
    simp only at isDot
    subst isDot
    rw [select_prepare, isSelect]
    split <;> exact ⟨label, _, rfl⟩
  rcases first with ⟨label, more, isFirst⟩
  have fails : projectionSql (query.prepare mapping).select = .error .unexpectedDot := by
    rw [isFirst]
    rfl
  rw [toSql, delete_prepare, keeps, fails] at writes
  split at writes <;> cases writes

/-- A select list that can be written gives a column. -/
theorem columns_ne_nil_of_toSql (keeps : query.delete = false)
    (noWildcard : ∀ item ∈ query.select, item.selection ≠ .wildcard) {mapping : Mapping}
    {sql : String} (writes : (query.prepare mapping).toSql = .ok sql)
    (isColumns : outputColumns query.select = some columns) : columns ≠ [] := by
  cases isSelect : query.select with
  | nil =>
    rw [isSelect] at isColumns
    cases isColumns
  | cons item rest =>
    have noDot := selection_ne_dot_of_toSql keeps writes isSelect
    have notWildcard := noWildcard item (by simp [isSelect])
    have first : ∃ unit more column, SelectUnit.ofItems query.select = unit :: more ∧
        unit.outputColumn? = some column := by
      rw [isSelect]
      rcases SelectUnit.ofItems_cons item rest with ⟨basePath, sub, more, isPath⟩ | isSingle
      · exact ⟨_, _, _, isPath, rfl⟩
      · refine ⟨_, _, item.label.getD item.selection.naturalName, isSingle, ?_⟩
        rcases item with ⟨_ | _ | _ | _, _⟩
        · rfl
        · rfl
        · exact absurd rfl notWildcard
        · exact absurd rfl noDot
    rcases first with ⟨unit, more, column, isUnits, isColumn⟩
    rw [outputColumns_eq_some isColumns, isUnits, List.filterMap_cons, isColumn]
    exact List.cons_ne_nil _ _

end Query

end SearchSql
