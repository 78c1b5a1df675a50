import SearchSql.Proofs.Query.Preparation
import SearchSql.Proofs.Query.SpatialPredicate

/-!
# Preparing what is prepared

`IsSettled` lists what a query must be like for preparation to leave it alone. A prepared query is
like that (`isSettled_prepare`): a keyword field is not suffixed twice, a grid is no call of
`geohash`, a limit that is there stays, and a geometry that could not be written still cannot. Two
parts of it may look like what preparation changes for another reason. A field that the query is now
grouped by may happen to be a label, and behind the first `ST_INTERSECTS` there may be a second one.
-/

namespace SearchSql

variable {mapping : Mapping} {select : List SelectItem} {node node' resolved : Node}

theorem isKeywordField_append (path : String) : isKeywordField (path ++ ".keyword") = true := by
  simp [isKeywordField, keywordEnding, String.toList_append]

theorem Suffixed.not_isAnalysed (suffixed : Suffixed (some mapping) node node') :
    ¬node'.IsAnalysed mapping := by
  cases suffixed with
  | suffixed isFetched analysed =>
    rintro ⟨noKeyword, -⟩
    rw [isKeywordField_append] at noKeyword
    cases noKeyword
  | kept settled => exact settled mapping rfl

/-- Neither what becomes a grid nor a grid itself is left to be changed. -/
theorem GroupedAs.settles (grouped : GroupedAs (some mapping) resolved node') :
    gridOf? node' = none ∧ ¬node'.IsAnalysed mapping := by
  cases grouped with
  | grid isGeohash =>
    refine ⟨?_, id⟩
    have noGeohash : Node.callsFunction "geohash" (.call "geohash_grid" []) = false := by
      decide +kernel
    simp [gridOf?, noGeohash]
  | term noGrid suffixed =>
    refine ⟨?_, suffixed.not_isAnalysed⟩
    cases suffixed with
    | suffixed => rfl
    | kept settled =>
      unfold gridOf?
      split
      next name field precision => exact if_neg (Bool.eq_false_iff.1 (noGrid _ _ _ rfl))
      next => rfl

theorem groupTerm_eq_self (noGrid : gridOf? node = none) (settled : ¬node.IsAnalysed mapping)
    (noLabel : ∀ label, node = .field label → ∀ item ∈ select, item.label ≠ some label) :
    groupTerm mapping select node = node := by
  have stands : resolvedGroup select node = node := by
    cases node with
    | field path => rw [resolvedGroup, SelectUnit.resolveLabel_eq_none (noLabel path rfl)]; rfl
    | _ => rfl
  rw [groupTerm_eq, stands, noGrid]
  exact Node.asKeyword_eq_self_iff.2 settled

theorem SelectItem.withKeywords_eq_self {item : SelectItem}
    (settled : ∀ name arguments, item.selection = .call name arguments →
      ∀ argument ∈ arguments, ¬argument.IsAnalysed mapping) :
    item.withKeywords mapping = item := by
  rcases item with ⟨selection, label⟩
  cases selection with
  | call name arguments =>
    have same := map_asKeyword_eq_self_iff.2 (settled name arguments rfl)
    simp only [SelectItem.withKeywords, same]
  | _ => rfl

theorem SelectItem.label_withKeywords (mapping : Mapping) (item : SelectItem) :
    (item.withKeywords mapping).label = item.label := by
  rcases item with ⟨_ | _ | _ | _, label⟩ <;> rfl

theorem SelectItem.not_isAnalysed_of_withKeywords {item : SelectItem} {name : String}
    {arguments : List Node}
    (isCall : (item.withKeywords mapping).selection = .call name arguments) :
    ∀ argument ∈ arguments, ¬argument.IsAnalysed mapping := by
  rcases item with ⟨_ | ⟨name', before⟩ | _ | _, label⟩ <;> cases isCall
  intro argument isArgument
  rcases List.mem_map.1 isArgument with ⟨old, -, rfl⟩
  exact (suffixed_asKeyword mapping old).not_isAnalysed

theorem OrderTerm.withKeywords_eq_self {term : OrderTerm}
    (settled : ¬term.node.IsAnalysed mapping) : term.withKeywords mapping = term := by
  rw [OrderTerm.withKeywords, Node.asKeyword_eq_self_iff.2 settled]

theorem map_eq_self {α : Type} {change : α → α} {items : List α}
    (settled : ∀ item ∈ items, change item = item) : items.map change = items := by
  rw [List.map_congr_left settled, List.map_id']

attribute [ext] Query

namespace Query

variable {query : Query}

/-- A query of which nothing is left to be changed. -/
structure IsSettled (mapping : Mapping) (query : Query) : Prop where
  arguments : query.needsMapping = true → ∀ item ∈ query.select, ∀ name arguments,
    item.selection = .call name arguments → ∀ argument ∈ arguments, ¬argument.IsAnalysed mapping
  order : ∀ term ∈ query.order, ¬term.node.IsAnalysed mapping
  group : ∀ node ∈ query.group, gridOf? node = none ∧ ¬node.IsAnalysed mapping
  labels : ∀ label, Node.field label ∈ query.group → ∀ item ∈ query.select,
    item.label ≠ some label
  limit : query.group ≠ [] → query.limit ≠ none
  predicate : ∀ node, query.predicate = some node → node.withEngineIntersects = node

theorem IsSettled.prepare_eq (settled : query.IsSettled mapping) :
    query.prepare mapping = query := by
  ext1
  · rw [select_prepare]
    split
    next needs =>
      exact map_eq_self fun item isItem =>
        SelectItem.withKeywords_eq_self (settled.arguments needs item isItem)
    next => rfl
  · exact index_prepare query mapping
  · rw [predicate_prepare]
    cases isPredicate : query.predicate with
    | none => rfl
    | some node => rw [Option.map_some, settled.predicate node isPredicate]
  · rw [group_prepare]
    refine map_eq_self fun node isNode => ?_
    rcases settled.group node isNode with ⟨noGrid, noText⟩
    refine groupTerm_eq_self noGrid noText ?_
    rintro label rfl
    exact settled.labels label isNode
  · rw [order_prepare]
    exact map_eq_self fun term isTerm =>
      OrderTerm.withKeywords_eq_self (settled.order term isTerm)
  · rw [limit_prepare, effectiveLimit_eq]
    cases isGroup : query.group with
    | nil => rfl
    | cons node rest =>
      rcases Option.ne_none_iff_exists'.1 (settled.limit (by simp [isGroup])) with ⟨limit, isLimit⟩
      rw [isLimit]
      rfl
  · exact delete_prepare query mapping

theorem exists_label_of_prepare {item : SelectItem}
    (isItem : item ∈ (query.prepare mapping).select) :
    ∃ before ∈ query.select, item.label = before.label := by
  rw [select_prepare] at isItem
  split at isItem
  · rcases List.mem_map.1 isItem with ⟨before, isBefore, rfl⟩
    exact ⟨before, isBefore, before.label_withKeywords mapping⟩
  · exact ⟨item, isItem, rfl⟩

theorem isSettled_prepare
    (noLabel : ∀ path, Node.field path ∈ (query.prepare mapping).group →
      ∀ item ∈ query.select, item.label ≠ some path)
    (once : ∀ node, query.predicate = some node → node.IntersectsOnce) :
    (query.prepare mapping).IsSettled mapping where
  arguments := by
    intro needs item isItem name arguments isCall
    rw [needsMapping_prepare] at needs
    rw [select_prepare, if_pos needs] at isItem
    rcases List.mem_map.1 isItem with ⟨before, -, rfl⟩
    exact SelectItem.not_isAnalysed_of_withKeywords isCall
  order := by
    intro term isTerm
    rw [order_prepare] at isTerm
    rcases List.mem_map.1 isTerm with ⟨before, -, rfl⟩
    exact (suffixed_asKeyword mapping before.node).not_isAnalysed
  group := by
    intro node isNode
    rw [group_prepare] at isNode
    rcases List.mem_map.1 isNode with ⟨before, -, rfl⟩
    rcases groups_groupTerm mapping query.select before with ⟨resolved, -, grouped⟩
    exact grouped.settles
  labels := by
    intro label isLabel item isItem
    rcases exists_label_of_prepare isItem with ⟨before, isBefore, same⟩
    rw [same]
    exact noLabel label isLabel before isBefore
  limit := by
    intro grouped noLimit
    rw [group_prepare, Ne, List.map_eq_nil_iff] at grouped
    simp [limit_prepare, effectiveLimit_eq, grouped] at noLimit
  predicate := by
    intro node isNode
    rw [predicate_prepare] at isNode
    rcases Option.map_eq_some_iff.1 isNode with ⟨before, isBefore, rfl⟩
    exact Node.withEngineIntersects_idem (once before isBefore)

/--
A prepared query stays as it is when it is prepared again, unless it is grouped by a field that is a
label too or its predicate leads to more than one `ST_INTERSECTS`.
-/
theorem prepare_prepare
    (noLabel : ∀ path, Node.field path ∈ (query.prepare mapping).group →
      ∀ item ∈ query.select, item.label ≠ some path)
    (once : ∀ node, query.predicate = some node → node.IntersectsOnce) :
    (query.prepare mapping).prepare mapping = query.prepare mapping :=
  (isSettled_prepare noLabel once).prepare_eq

/-- A query of which each part changes, and no part changes again. -/
theorem prepare_prepare_of_grouped_label :
    let point : Node := .string "\x7b\"type\":\"Point\",\"coordinates\":[1,2]\x7d"
    let intersects : Node := .call "st_intersects" [.field "the_geom", point]
    let query : Query :=
      { select := [⟨.field "name", some "n"⟩, ⟨.call "lower" [.field "name"], some "l"⟩]
        index := "t"
        predicate := some (.conditional "AND" intersects (.isNull (.field "name") true))
        group := [.field "n", .call "geohash" [.field "p", .number "3"]]
        order := [⟨.field "name", true⟩] }
    let mapping : Mapping := [("name", .text)]
    (∀ path, Node.field path ∈ (query.prepare mapping).group →
        ∀ item ∈ query.select, item.label ≠ some path) ∧
      (∀ node, query.predicate = some node → node.IntersectsOnce) ∧
      (query.prepare mapping).prepare mapping = query.prepare mapping := by
  intro point intersects query mapping
  have noLabel : ∀ path, Node.field path ∈ (query.prepare mapping).group →
      ∀ item ∈ query.select, item.label ≠ some path := by
    have byLabel : groupTerm mapping query.select (.field "n") = .field "name.keyword" := by rfl
    have calls : Node.callsFunction "geohash" (.call "geohash" []) = true := by decide +kernel
    have isGroup : (query.prepare mapping).group = [.field "name.keyword", .call "geohash_grid"
        [.operator "=" (.field "field") (.field "the_geom_point"),
          .operator "=" (.field "precision") (.number "3")]] := by
      rw [group_prepare, List.map_cons, byLabel]
      simp [groupTerm, gridOf?, calls, pointField]
    intro path isPath
    rw [isGroup] at isPath
    simp only [List.mem_cons, Node.field.injEq, reduceCtorEq, List.not_mem_nil, or_false] at isPath
    subst isPath
    simp [query]
  have once : ∀ node, query.predicate = some node → node.IntersectsOnce := by
    -- there is no way to the right, and the only one to the left is the call itself
    have isLeft : ∀ way arguments, (Node.conditional "AND" intersects
        (.isNull (.field "name") true)).IntersectsAt way arguments → way = [.left] := by
      intro way arguments found
      rcases found.of_conditional with ⟨rest, rfl, left⟩ | ⟨rest, rfl, right⟩
      · rw [(left.eq_self fun _ _ _ => Node.noConfusion).1]
      · cases (right.eq_self fun _ _ _ => Node.noConfusion).2
    rintro node ⟨⟩ way arguments other otherArguments found otherFound
    rw [isLeft _ _ found, isLeft _ _ otherFound]
  exact ⟨noLabel, once, prepare_prepare noLabel once⟩

/-- A label that stands for another label is followed once. -/
example :
    let query : Query :=
      { select := [⟨.field "a", some "b"⟩, ⟨.field "b", some "c"⟩], index := "t"
        group := [.field "c"] }
    (query.prepare []).group = [.field "b"] ∧
      ((query.prepare []).prepare []).group = [.field "a"] := ⟨rfl, rfl⟩

end Query

end SearchSql
