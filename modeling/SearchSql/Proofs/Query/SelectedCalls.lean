import SearchSql.Proofs.Query.Columns
import SearchSql.Proofs.Row.GroupedLabel

/-!
# Calls that are selected, and ordered or grouped by

Preparing a query puts keyword fields in three places, and not at the same depth: among the
arguments of a selected call, but only at the top of what a query orders or groups by. A label
stands for the call as it was before. So a call that is selected, and ordered or grouped by as well,
comes out the same in all places exactly when none of its arguments is a field of analysed text.
-/

namespace SearchSql

variable {mapping : Mapping}

/-- A field of analysed text that is not its own keyword field. -/
def Node.IsAnalysed (mapping : Mapping) : Node → Prop
  | .field path => isKeywordField path = false ∧ mapping.isText path = true
  | _ => False

theorem Node.asKeyword_eq_self_iff {node : Node} :
    node.asKeyword mapping = node ↔ ¬node.IsAnalysed mapping := by
  cases node with
  | field path =>
    have longer : path ++ keywordEnding ≠ path := by
      intro same
      have lengths := congrArg String.length same
      simp [keywordEnding] at lengths
    cases isKeyword : isKeywordField path <;> cases isText : mapping.isText path <;>
      simp [asKeyword, IsAnalysed, isKeyword, isText, longer]
  | _ => simp [asKeyword, IsAnalysed]

theorem map_asKeyword_eq_self_iff {arguments : List Node} :
    arguments.map (·.asKeyword mapping) = arguments ↔
      ∀ argument ∈ arguments, ¬argument.IsAnalysed mapping := by
  simp only [← Node.asKeyword_eq_self_iff]
  induction arguments with
  | nil => simp
  | cons argument rest ih => simp [ih]

/-- The item at a position stands behind a field and a dot, as the part of a path does. -/
def BehindDot (select : List SelectItem) (position : Nat) : Prop :=
  2 ≤ position ∧ ∃ base, select[position - 2]?.map (·.selection) = some (.field base) ∧
    select[position - 1]?.map (·.selection) = some .dot

section Label

variable {select : List SelectItem} {label : String} {position : Nat} {item : SelectItem}

theorem resolveLabel_of_base
    (found : select.findIdx? (·.label == some label) = some position)
    (isItem : select[position]? = some item) (enough : 2 ≤ position) {base : String}
    (isBase : select[position - 2]?.map (·.selection) = some (.field base))
    (isDot : select[position - 1]?.map (·.selection) = some .dot) :
    resolveLabel select label = some (.field (SelectUnit.dotted base item.selection.name)) := by
  have some1 : 1 ≤ position := Nat.le_of_succ_le enough
  simp [resolveLabel, found, isItem, enough, some1, isBase, isDot]

theorem resolveLabel_of_behindDot
    (found : select.findIdx? (·.label == some label) = some position)
    (isItem : select[position]? = some item) (behind : BehindDot select position) :
    ∃ path, resolveLabel select label = some (.field path) := by
  rcases behind with ⟨enough, base, isBase, isDot⟩
  exact ⟨_, resolveLabel_of_base found isItem enough isBase isDot⟩

theorem resolveLabel_of_not_behindDot
    (found : select.findIdx? (·.label == some label) = some position)
    (isItem : select[position]? = some item) (plain : ¬BehindDot select position) :
    resolveLabel select label = some item.selection.toNode := by
  have noPath : ∀ base : String,
      ¬((if 2 ≤ position then select[position - 2]?.map (·.selection) else none) =
          some (.field base) ∧
        (if 1 ≤ position then select[position - 1]?.map (·.selection) else none) = some .dot) := by
    rintro base ⟨isBase, isDot⟩
    split at isBase
    next enough =>
      rw [if_pos (Nat.le_of_succ_le enough)] at isDot
      exact plain ⟨enough, base, isBase, isDot⟩
    next => cases isBase
  simp only [resolveLabel, found, Option.bind_some, isItem, Option.map_some, Option.some.injEq]
  split
  next base isBase isDot => exact absurd ⟨isBase, isDot⟩ (noPath base)
  next => rfl

end Label

namespace Query

variable {query : Query} {position : Nat} {name : String} {arguments : List Node}
  {label : Option String}

/-- What the item at a position selects. -/
def selectedNode? (query : Query) (position : Nat) : Option Node :=
  query.select[position]?.map (·.selection.toNode)

/-- A prepared call is the call that was selected if its arguments stay as they are. -/
theorem selectedNode?_prepare_iff (needs : query.needsMapping = true)
    (selected : query.select[position]? = some ⟨.call name arguments, label⟩) :
    (query.prepare mapping).selectedNode? position = some (.call name arguments) ↔
      ∀ argument ∈ arguments, ¬argument.IsAnalysed mapping := by
  rw [← map_asKeyword_eq_self_iff, selectedNode?, select_prepare, if_pos needs, List.getElem?_map,
    selected]
  simp [SelectItem.withKeywords, Selection.toNode]

theorem groupTerm_call (noGrid : gridOf? (.call name arguments) = none)
    (select : List SelectItem) :
    groupTerm mapping select (.call name arguments) = .call name arguments := by
  simp [groupTerm, noGrid, Node.asKeyword]

theorem groupTerm_label {text : String}
    (selected : query.select[position]? = some ⟨.call name arguments, label⟩)
    (noGrid : gridOf? (.call name arguments) = none)
    (found : query.select.findIdx? (·.label == some text) = some position)
    (plain : ¬BehindDot query.select position) :
    groupTerm mapping query.select (.field text) = .call name arguments := by
  have resolves := resolveLabel_of_not_behindDot found selected plain
  simp [groupTerm, resolves, Selection.toNode, noGrid, Node.asKeyword]

/-- The label of a call behind a field and a dot is taken for that of a path. -/
theorem groupTerm_label_of_behindDot {text : String}
    (selected : query.select[position]? = some ⟨.call name arguments, label⟩)
    (found : query.select.findIdx? (·.label == some text) = some position)
    (behind : BehindDot query.select position) :
    ∃ path, groupTerm mapping query.select (.field text) = .field path := by
  rcases resolveLabel_of_behindDot found selected behind with ⟨path, resolves⟩
  refine ⟨groupedField mapping path, ?_⟩
  simp [groupTerm, resolves, gridOf?, asKeyword_field]

theorem needsMapping_of_order {index : Nat} {term : OrderTerm}
    (isTerm : query.order[index]? = some term) : query.needsMapping = true := by
  have nonempty : query.order ≠ [] := List.ne_nil_of_mem (List.mem_of_getElem? isTerm)
  simp [needsMapping, nonempty]

theorem getElem?_group_prepare {index : Nat} {node : Node}
    (isNode : query.group[index]? = some node) :
    query.needsMapping = true ∧
      (query.prepare mapping).group[index]? = some (groupTerm mapping query.select node) := by
  have nonempty : query.group ≠ [] := List.ne_nil_of_mem (List.mem_of_getElem? isNode)
  refine ⟨by simp [needsMapping, nonempty], ?_⟩
  rw [group_prepare, List.getElem?_map, isNode, Option.map_some]

/--
A call that is selected comes out the same where the query orders or groups by it exactly when none
of its arguments is a field of analysed text. A label stands for the call on the same condition,
unless its item stands behind a field and a dot.
-/
theorem selectedCall_prepare_iff
    (selected : query.select[position]? = some ⟨.call name arguments, label⟩)
    (noGrid : gridOf? (.call name arguments) = none) (mapping : Mapping) :
    (∀ (index : Nat) (term : OrderTerm), query.order[index]? = some term →
      term.node = .call name arguments →
      ∃ term', (query.prepare mapping).order[index]? = some term' ∧
        ((query.prepare mapping).selectedNode? position = some term'.node ↔
          ∀ argument ∈ arguments, ¬argument.IsAnalysed mapping)) ∧
    (∀ index : Nat, query.group[index]? = some (.call name arguments) →
      ∃ node, (query.prepare mapping).group[index]? = some node ∧
        ((query.prepare mapping).selectedNode? position = some node ↔
          ∀ argument ∈ arguments, ¬argument.IsAnalysed mapping)) ∧
    ∀ (index : Nat) (text : String), query.group[index]? = some (.field text) →
      query.select.findIdx? (·.label == some text) = some position →
      ∃ node, (query.prepare mapping).group[index]? = some node ∧
        ((query.prepare mapping).selectedNode? position = some node ↔
          (∀ argument ∈ arguments, ¬argument.IsAnalysed mapping) ∧
            ¬BehindDot query.select position) := by
  refine ⟨?_, ?_, ?_⟩
  · intro index term isTerm isCall
    have stays : (term.withKeywords mapping).node = .call name arguments := by
      simp [OrderTerm.withKeywords, isCall, Node.asKeyword]
    refine ⟨term.withKeywords mapping, ?_, ?_⟩
    · rw [order_prepare, List.getElem?_map, isTerm, Option.map_some]
    · rw [stays]
      exact selectedNode?_prepare_iff (needsMapping_of_order isTerm) selected
  · intro index isCall
    rcases getElem?_group_prepare isCall with ⟨needs, isNode⟩
    refine ⟨_, isNode, ?_⟩
    rw [groupTerm_call noGrid]
    exact selectedNode?_prepare_iff needs selected
  · intro index text isLabel found
    rcases getElem?_group_prepare isLabel with ⟨needs, isNode⟩
    refine ⟨_, isNode, ?_⟩
    by_cases behind : BehindDot query.select position
    · -- the selected item stays a call, and what is grouped by has become a field
      rcases groupTerm_label_of_behindDot selected found behind with ⟨path, isPath⟩
      rw [isPath, selectedNode?, select_prepare, if_pos needs, List.getElem?_map, selected]
      simp [SelectItem.withKeywords, Selection.toNode, behind]
    · rw [groupTerm_label selected noGrid found behind,
        selectedNode?_prepare_iff needs selected]
      simp [behind]

/-- A call of a keyword field is the same wherever it stands. -/
theorem selectedCall_prepare_keyword :
    let call : Node := .call "upper" [.field "iso"]
    let query : Query :=
      { select := [⟨.call "upper" [.field "iso"], some "u"⟩], index := "t"
        group := [call, .field "u"], order := [⟨call, true⟩] }
    let prepared := query.prepare [("iso", .keyword)]
    ∃ ordered grouped labelled, prepared.order[0]? = some ordered ∧
      prepared.group[0]? = some grouped ∧ prepared.group[1]? = some labelled ∧
      prepared.selectedNode? 0 = some ordered.node ∧ prepared.selectedNode? 0 = some grouped ∧
      prepared.selectedNode? 0 = some labelled := by
  intro call query prepared
  rcases @selectedCall_prepare_iff query 0 "upper" [.field "iso"] (some "u") rfl rfl
    [("iso", .keyword)] with ⟨order, group, label⟩
  have settled : ∀ argument ∈ [Node.field "iso"], ¬argument.IsAnalysed [("iso", .keyword)] := by
    rw [List.forall_mem_singleton]
    rintro ⟨_, isText⟩
    exact absurd isText (by decide)
  have plain : ¬BehindDot query.select 0 := fun behind => absurd behind.1 (by decide)
  rcases order 0 _ rfl rfl with ⟨ordered, isOrdered, orderAgrees⟩
  rcases group 0 rfl with ⟨grouped, isGrouped, groupAgrees⟩
  rcases label 1 "u" rfl (by decide) with ⟨labelled, isLabelled, labelAgrees⟩
  exact ⟨ordered, grouped, labelled, isOrdered, isGrouped, isLabelled, orderAgrees.2 settled,
    groupAgrees.2 settled, labelAgrees.2 ⟨settled, plain⟩⟩

/-- A call of analysed text is selected in other words than it is ordered and grouped by. -/
theorem selectedCall_prepare_text :
    let call : Node := .call "lower" [.field "name"]
    let query : Query :=
      { select := [⟨.call "lower" [.field "name"], some "l"⟩], index := "t"
        group := [call, .field "l"], order := [⟨call, true⟩] }
    let prepared := query.prepare [("name", .text)]
    prepared.selectedNode? 0 = some (.call "lower" [.field "name.keyword"]) ∧
      prepared.group = [call, call] ∧ prepared.order.map (·.node) = [call] ∧
      prepared.selectedNode? 0 ≠ some call := by
  intro call query prepared
  have selects : prepared.selectedNode? 0 = some (.call "lower" [.field "name.keyword"]) := by
    rfl
  refine ⟨selects, rfl, rfl, ?_⟩
  rw [selects]
  simp [call]

end Query

end SearchSql
