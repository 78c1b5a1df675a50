import SearchSql.Query.Prepare

/-!
# The fields of a prepared query

Whether or not a query needs a mapping, each field of the prepared query is told by the query alone
(`Query.prepare_eq`). A query that needs none has nothing to group or order by, so that only its
select list has to be told apart.
-/

namespace SearchSql.Query

variable {query : Query}

theorem needsMapping_iff : query.needsMapping = true ↔ query.group ≠ [] ∨ query.order ≠ [] := by
  simp [needsMapping]

theorem not_needsMapping_iff :
    query.needsMapping = false ↔ query.group = [] ∧ query.order = [] := by
  simp [needsMapping]

theorem withGroupLimit_eq (query : Query) :
    query.withGroupLimit = { query with limit := query.withGroupLimit.limit } := by
  unfold withGroupLimit
  split <;> rfl

/-- Keyword fields do not matter to the limit. -/
theorem limit_withGroupLimit_withKeywords (query : Query) (mapping : Mapping) :
    (query.withKeywords mapping).withGroupLimit.limit = query.withGroupLimit.limit := by
  simp only [withGroupLimit, withKeywords, List.isEmpty_map]
  split <;> rfl

theorem prepare_eq (query : Query) (mapping : Mapping) :
    query.prepare mapping =
      { query with
        select :=
          if query.needsMapping then query.select.map (·.withKeywords mapping) else query.select
        predicate := query.predicate.map Node.withEngineIntersects
        group := query.group.map (groupTerm mapping query.select)
        order := query.order.map (·.withKeywords mapping)
        limit := query.withGroupLimit.limit } := by
  cases needs : query.needsMapping with
  | true =>
    simp only [prepare, needs, if_true]
    rw [withGroupLimit_eq (query.withKeywords mapping), limit_withGroupLimit_withKeywords]
    rfl
  | false =>
    rcases not_needsMapping_iff.1 needs with ⟨noGroup, noOrder⟩
    simp only [prepare, needs, Bool.false_eq_true, if_false, noGroup, noOrder, List.map_nil]
    rw [withGroupLimit_eq query]
    simp only [noGroup, noOrder]

theorem index_prepare (query : Query) (mapping : Mapping) :
    (query.prepare mapping).index = query.index := by
  rw [prepare_eq]

theorem delete_prepare (query : Query) (mapping : Mapping) :
    (query.prepare mapping).delete = query.delete := by
  rw [prepare_eq]

theorem select_prepare (query : Query) (mapping : Mapping) :
    (query.prepare mapping).select =
      if query.needsMapping then query.select.map (·.withKeywords mapping) else query.select := by
  rw [prepare_eq]

theorem predicate_prepare (query : Query) (mapping : Mapping) :
    (query.prepare mapping).predicate = query.predicate.map Node.withEngineIntersects := by
  rw [prepare_eq]

theorem group_prepare (query : Query) (mapping : Mapping) :
    (query.prepare mapping).group = query.group.map (groupTerm mapping query.select) := by
  rw [prepare_eq]

theorem order_prepare (query : Query) (mapping : Mapping) :
    (query.prepare mapping).order = query.order.map (·.withKeywords mapping) := by
  rw [prepare_eq]

theorem needsMapping_prepare (query : Query) (mapping : Mapping) :
    (query.prepare mapping).needsMapping = query.needsMapping := by
  simp [needsMapping, group_prepare, order_prepare]

end SearchSql.Query
