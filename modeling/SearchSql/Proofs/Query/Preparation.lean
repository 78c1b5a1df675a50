import SearchSql.Mapping.Source
import SearchSql.Proofs.Query.SelectedCalls
import SearchSql.Proofs.Session.Stages
import Mathlib.Data.List.Forall2

/-!
# What preparation changes

The relations of this file say of each part of a query what becomes of it when the query is
prepared, given the mapping that was fetched for it, if one was: `Suffixed` for a node that may
become a keyword field, `SelectedAs` and `OrderedAs` for the items of the select list and of the
order, `StandsFor`, `ResolvedAs` and `GroupedAs` for the two steps of a grouping. `PreparedAs` puts
them together field by field, so that everything it does not mention as changed is the same before
and after. `PreparesFrom` adds the lookup, of which a run is one example
(`Query.execute_eq_prepareFrom`).
-/

namespace SearchSql

/-- A field of analysed text becomes its keyword field once there is a mapping to tell. -/
inductive Suffixed (fetched : Option Mapping) : Node → Node → Prop
  | suffixed {mapping : Mapping} {path : String} (isFetched : fetched = some mapping)
      (analysed : (Node.field path).IsAnalysed mapping) :
      Suffixed fetched (.field path) (.field (path ++ ".keyword"))
  | kept {node : Node} (settled : ∀ mapping, fetched = some mapping → ¬node.IsAnalysed mapping) :
      Suffixed fetched node node

/-- A selected call keeps its name and label, and every other item stays whole. -/
inductive SelectedAs (fetched : Option Mapping) : SelectItem → SelectItem → Prop
  | call {name : String} {arguments arguments' : List Node} {label : Option String}
      (each : List.Forall₂ (Suffixed fetched) arguments arguments') :
      SelectedAs fetched ⟨.call name arguments, label⟩ ⟨.call name arguments', label⟩
  | kept {item : SelectItem} (noCall : ∀ name arguments, item.selection ≠ .call name arguments) :
      SelectedAs fetched item item

structure OrderedAs (fetched : Option Mapping) (term term' : OrderTerm) : Prop where
  node : Suffixed fetched term.node term'.node
  ascending : term'.ascending = term.ascending

/-- A label stands for the first item that has it, as a path if it is behind a field and a dot. -/
inductive StandsFor (select : List SelectItem) (label : String) : Node → Prop
  | path {position : Nat} {base : String} {item : SelectItem}
      (first : select.findIdx? (·.label == some label) = some position)
      (isItem : select[position]? = some item) (enough : 2 ≤ position)
      (isBase : select[position - 2]?.map (·.selection) = some (.field base))
      (isDot : select[position - 1]?.map (·.selection) = some .dot) :
      StandsFor select label (.field (base ++ "." ++ item.selection.name))
  | item {position : Nat} {item : SelectItem}
      (first : select.findIdx? (·.label == some label) = some position)
      (isItem : select[position]? = some item) (alone : ¬BehindDot select position) :
      StandsFor select label item.selection.toNode

/-- A grouping by a label is one by what the label stands for. -/
inductive ResolvedAs (select : List SelectItem) : Node → Node → Prop
  | label {label : String} {node : Node} (stands : StandsFor select label node) :
      ResolvedAs select (.field label) node
  | kept {node : Node}
      (noLabel : ∀ label, node = .field label → ∀ item ∈ select, item.label ≠ some label) :
      ResolvedAs select node node

/-- A call of `geohash` with a precision becomes a grid, and a field may become a keyword field. -/
inductive GroupedAs (fetched : Option Mapping) : Node → Node → Prop
  | grid {name : String} {field precision : Node}
      (isGeohash : Node.callsFunction "geohash" (.call name [field, precision]) = true) :
      GroupedAs fetched (.call name [field, precision])
        (.call "geohash_grid"
          [.operator "=" (.field "field") (.field "the_geom_point"),
            .operator "=" (.field "precision") precision])
  | term {node node' : Node}
      (noGrid : ∀ name field precision, node = .call name [field, precision] →
        Node.callsFunction "geohash" node = false)
      (suffixed : Suffixed fetched node node') : GroupedAs fetched node node'

namespace Query

/-- What becomes of a query, field by field. -/
structure PreparedAs (query : Query) (fetched : Option Mapping) (prepared : Query) : Prop where
  index : prepared.index = query.index
  delete : prepared.delete = query.delete
  select : List.Forall₂ (SelectedAs fetched) query.select prepared.select
  order : List.Forall₂ (OrderedAs fetched) query.order prepared.order
  group : List.Forall₂
    (fun node node' => ∃ resolved, ResolvedAs query.select node resolved ∧
      GroupedAs fetched resolved node') query.group prepared.group
  limit : prepared.limit =
    if query.group.isEmpty then query.limit else some (query.limit.getD 9999999)
  predicate : prepared.predicate = query.predicate.map Node.withEngineIntersects

/-- The ways in which the preparation of a query from a source may go. -/
inductive PreparesFrom {σ : Type} (query : Query) (source : Mapping.Source σ) (index : String)
    (state : σ) : Except QueryError Query × σ → Prop
  /-- The source is not asked. -/
  | unasked {prepared : Query} (noGroup : query.group = []) (noOrder : query.order = [])
      (prepares : query.PreparedAs none prepared) :
      PreparesFrom query source index state (.ok prepared, state)
  | answered {mapping : Mapping} {after : σ} {prepared : Query}
      (needs : query.group ≠ [] ∨ query.order ≠ [])
      (asks : source index state = (.ok mapping, after))
      (prepares : query.PreparedAs (some mapping) prepared) :
      PreparesFrom query source index state (.ok prepared, after)
  | failed {cause : BackendError} {after : σ} (needs : query.group ≠ [] ∨ query.order ≠ [])
      (asks : source index state = (.error cause, after)) :
      PreparesFrom query source index state (.error (.mappingLookup cause), after)

end Query

/-- An engine as a source of mappings that lists what it is asked for. -/
def Engine.mappings (engine : Engine) : Mapping.Source (List Event) := fun index events =>
  (engine.mapping, events ++ [.mapping index])

theorem suffixed_asKeyword (mapping : Mapping) (node : Node) :
    Suffixed (some mapping) node (node.asKeyword mapping) := by
  by_cases analysed : node.IsAnalysed mapping
  · cases node with
    | field path =>
      have isKeyword : (Node.field path).asKeyword mapping = .field (path ++ ".keyword") := by
        simp only [Node.IsAnalysed] at analysed
        simp [Node.asKeyword, analysed, keywordEnding]
      rw [isKeyword]
      exact .suffixed rfl analysed
    | _ => cases analysed
  · rw [Node.asKeyword_eq_self_iff.2 analysed]
    refine .kept fun other isFetched => ?_
    cases isFetched
    exact analysed

theorem suffixed_none (node : Node) : Suffixed none node node := .kept nofun

theorem selectedAs_withKeywords (mapping : Mapping) (item : SelectItem) :
    SelectedAs (some mapping) item (item.withKeywords mapping) := by
  rcases item with ⟨selection, label⟩
  cases selection with
  | call name arguments =>
    refine .call ?_
    rw [List.forall₂_map_right_iff, List.forall₂_same]
    exact fun argument _ => suffixed_asKeyword mapping argument
  | _ => exact .kept nofun

theorem selectedAs_none (item : SelectItem) : SelectedAs none item item := by
  rcases item with ⟨selection, label⟩
  cases selection with
  | call name arguments =>
    exact .call (List.forall₂_same.2 fun argument _ => suffixed_none argument)
  | _ => exact .kept nofun

/-- The node that a grouping is by once its label is resolved. -/
def resolvedGroup (select : List SelectItem) : Node → Node
  | .field path => (resolveLabel select path).getD (.field path)
  | node => node

theorem groupTerm_eq (mapping : Mapping) (select : List SelectItem) (node : Node) :
    groupTerm mapping select node =
      (gridOf? (resolvedGroup select node)).getD
        ((resolvedGroup select node).asKeyword mapping) := by
  cases node <;> rfl

theorem resolvedAs_resolvedGroup (select : List SelectItem) (node : Node) :
    ResolvedAs select node (resolvedGroup select node) := by
  cases node with
  | field label =>
    rw [resolvedGroup]
    cases first : select.findIdx? (·.label == some label) with
    | none =>
      have absent : ∀ item ∈ select, item.label ≠ some label := by
        simpa using List.findIdx?_eq_none_iff.1 first
      rw [SelectUnit.resolveLabel_eq_none absent]
      refine .kept fun other isField => ?_
      cases isField
      exact absent
    | some position =>
      have within : position < select.length := (List.findIdx?_eq_some_iff_getElem.1 first).1
      have isItem := List.getElem?_eq_getElem within
      by_cases behind : BehindDot select position
      · rcases behind with ⟨enough, base, isBase, isDot⟩
        rw [resolveLabel_of_base first isItem enough isBase isDot]
        exact .label (.path first isItem enough isBase isDot)
      · rw [resolveLabel_of_not_behindDot first isItem behind]
        exact .label (.item first isItem behind)
  | _ => exact .kept nofun

theorem groupedAs_groupTerm (mapping : Mapping) (resolved : Node) :
    GroupedAs (some mapping) resolved ((gridOf? resolved).getD (resolved.asKeyword mapping)) := by
  unfold gridOf?
  split
  next name field precision =>
    split
    next calls => exact .grid calls
    next noCall =>
      refine .term ?_ (suffixed_asKeyword mapping _)
      rintro name' field' precision' isCall
      cases isCall
      exact Bool.eq_false_iff.2 noCall
  next noCall =>
    exact .term (fun name field precision isCall => absurd isCall (noCall name field precision))
      (suffixed_asKeyword mapping resolved)

theorem groups_groupTerm (mapping : Mapping) (select : List SelectItem) (node : Node) :
    ∃ resolved, ResolvedAs select node resolved ∧
      GroupedAs (some mapping) resolved (groupTerm mapping select node) := by
  rw [groupTerm_eq]
  exact ⟨_, resolvedAs_resolvedGroup select node, groupedAs_groupTerm mapping _⟩

namespace Query

variable {query : Query}

theorem effectiveLimit_eq (query : Query) :
    query.effectiveLimit =
      if query.group.isEmpty then query.limit else some (query.limit.getD 9999999) := by
  unfold effectiveLimit withGroupLimit
  cases isGroup : query.group <;> cases isLimit : query.limit <;>
    simp [isLimit, groupLimit]

theorem preparedAs_prepare (needs : query.needsMapping = true) (mapping : Mapping) :
    query.PreparedAs (some mapping) (query.prepare mapping) where
  index := index_prepare query mapping
  delete := delete_prepare query mapping
  select := by
    rw [select_prepare, if_pos needs, List.forall₂_map_right_iff, List.forall₂_same]
    exact fun item _ => selectedAs_withKeywords mapping item
  order := by
    rw [order_prepare, List.forall₂_map_right_iff, List.forall₂_same]
    exact fun term _ => ⟨suffixed_asKeyword mapping term.node, rfl⟩
  group := by
    rw [group_prepare, List.forall₂_map_right_iff, List.forall₂_same]
    exact fun node _ => groups_groupTerm mapping query.select node
  limit := (limit_prepare query mapping).trans (effectiveLimit_eq query)
  predicate := predicate_prepare query mapping

/-- A query that neither groups nor orders is prepared as well without a mapping. -/
theorem preparedAs_none (needs : query.needsMapping = false) (mapping : Mapping) :
    query.PreparedAs none (query.prepare mapping) := by
  rcases not_needsMapping_iff.1 needs with ⟨noGroup, noOrder⟩
  refine ⟨index_prepare query mapping, delete_prepare query mapping, ?_, ?_, ?_,
    (limit_prepare query mapping).trans (effectiveLimit_eq query), predicate_prepare query mapping⟩
  · rw [select_prepare, needs, if_neg Bool.false_ne_true]
    exact List.forall₂_same.2 fun item _ => selectedAs_none item
  · rw [order_prepare, noOrder]
    exact .nil
  · rw [group_prepare, noGroup]
    exact .nil

/--
A query asks for the mapping of the index once if it groups or orders, and not at all otherwise, and
its preparation fails if and only if what it asks for cannot be had. A prepared query differs from
the query as `PreparedAs` says and in nothing else.
-/
theorem preparesFrom_prepareFrom {σ : Type} (query : Query) (source : Mapping.Source σ)
    (index : String) (state : σ) :
    query.PreparesFrom source index state (query.prepareFrom source index state) := by
  unfold prepareFrom
  cases needs : query.needsMapping with
  | false =>
    rcases not_needsMapping_iff.1 needs with ⟨noGroup, noOrder⟩
    exact .unasked noGroup noOrder (preparedAs_none needs [])
  | true =>
    rw [if_pos rfl]
    split
    next cause after asks => exact .failed (needsMapping_iff.1 needs) asks
    next mapping after asks =>
      exact .answered (needsMapping_iff.1 needs) asks (preparedAs_prepare needs mapping)

/-- A run begins with the preparation of its query. -/
theorem execute_eq_prepareFrom (engine : Engine) (consumer : Consumer) (options : Options)
    (turns : Nat) (index : String) :
    query.execute engine consumer options turns index =
      match query.prepareFrom engine.mappings index [] with
      | (.error cause, events) => some (Run.failed events cause)
      | (.ok prepared, events) =>
        let session : Session :=
          { engine, consumer, select := query.select, limit := prepared.limit, options }
        (session.run turns index prepared).map (Run.after events) := by
  unfold execute prepareFrom Engine.mappings
  cases query.needsMapping with
  | false => rfl
  | true => cases engine.mapping <;> rfl

end Query

end SearchSql
