import SearchSql.Proofs.Query.Dropped
import SearchSql.Proofs.Query.Labels
import Mathlib.Data.List.Forall2

/-!
# Select lists and those who walk them

What a SELECT says term by term becomes a list of items, in which a field inside an object takes
three. The columns that are written as SQL, renamed, or put at the head of a document, and the node
that a label stands for, are all found in this list. `Selected` is what one term selects, and the
lists that are read from SQL text are the concatenations of such terms: whoever walks one of them
finds the terms again, and each of the four walks says of a term what its own text, column, label and
node are.
-/

namespace SearchSql

/-- What one term of a select list selects: everything, a call, a field, or a member of an object. -/
inductive Selected
  | everything
  | call (name : String) (arguments : List Node) (label : Option String)
  | field (path : String) (label : Option String)
  | member (base sub : String) (label : Option String)

namespace Selected

/-- The unit of the select list; only what is selected last carries a label. -/
def unit : Selected → SelectUnit
  | everything => .single ⟨.wildcard, none⟩
  | call name arguments label => .single ⟨.call name arguments, label⟩
  | field path label => .single ⟨.field path, label⟩
  | member base sub label => .path ⟨.field base, none⟩ base ⟨.field sub, label⟩

def items (selected : Selected) : List SelectItem := selected.unit.items

def label : Selected → Option String
  | everything => none
  | call _ _ label => label
  | field _ label => label
  | member _ _ label => label

/-- The path of a field, or of a member of an object. -/
def path? : Selected → Option String
  | everything => none
  | call .. => none
  | field path _ => some path
  | member base sub _ => some (base ++ "." ++ sub)

/-- The column without a label: the path of a field, or the call as the engine names it. -/
def column? : Selected → Option String
  | call name arguments _ =>
    some (name ++ "(" ++ ", ".intercalate (arguments.map Node.render) ++ ")")
  | selected => selected.path?

/-- What is written in SQL. A call keeps its label, and a path loses it. -/
def term : Selected → String
  | everything => "*"
  | call name arguments label => labelledSql (callSql name arguments) label
  | field path _ => path
  | member base sub _ => base ++ "." ++ sub

/-- What a grouping by the label is about. -/
def node? : Selected → Option Node
  | call name arguments _ => some (.call name arguments)
  | selected => selected.path?.map Node.field

/-- The column and the label, of what has both. -/
def renaming? (selected : Selected) : Option (String × String) :=
  selected.column?.bind fun column => selected.label.map fun label => (column, label)

/-- A select list of several terms. -/
def list (terms : List Selected) : List SelectItem := terms.flatMap items

variable {selected : Selected} {terms : List Selected}

theorem regular (selected : Selected) : selected.unit.Regular := by
  cases selected with
  | member base sub label => exact ⟨rfl, sub, rfl⟩
  | _ => nofun

theorem regular_of_mem {unit : SelectUnit} (isUnit : unit ∈ terms.map Selected.unit) :
    unit.Regular := by
  rcases List.mem_map.1 isUnit with ⟨selected, -, rfl⟩
  exact selected.regular

theorem list_eq (terms : List Selected) :
    list terms = (terms.map unit).flatMap SelectUnit.items := by
  rw [list, List.flatMap_map]
  rfl

/-- The terms are found again. -/
theorem ofItems_list (terms : List Selected) :
    SelectUnit.ofItems (list terms) = terms.map unit := by
  rw [list_eq]
  exact SelectUnit.ofItems_flatMap_items fun _ => regular_of_mem

theorem list_eq_nil_iff : list terms = [] ↔ terms = [] := by
  cases terms with
  | nil => simp [list]
  | cons selected rest => cases selected <;> simp [list, items, unit, SelectUnit.items]

/-! ## What is written -/

theorem projectionTerms_units (terms : List Selected) :
    projectionTerms (terms.map unit) = .ok (terms.map term) := by
  induction terms with
  | nil => rfl
  | cons selected rest ih =>
    rw [List.map_cons, List.map_cons]
    cases selected with
    | field path label =>
      -- what follows a field is no dot
      rw [unit, projectionTerms, ih]
      · rfl
      · intro dotLabel more isDot
        cases rest with
        | nil => cases isDot
        | cons next rest => cases next <;> cases isDot
    | everything | call | member =>
      rw [unit, projectionTerms, ih]
      rfl

theorem projectionSql_list (terms : List Selected) :
    projectionSql (list terms) =
      .ok (if terms.isEmpty then "*" else ", ".intercalate (terms.map term)) := by
  unfold projectionSql
  rw [ofItems_list, projectionTerms_units]
  cases terms with
  | nil => rfl
  | cons selected rest =>
    have nonempty : list (selected :: rest) ≠ [] := fun isNil =>
      List.cons_ne_nil _ _ (list_eq_nil_iff.1 isNil)
    simp [nonempty, Except.map]

/-! ## Columns -/

theorem column?_unit (selected : Selected) : selected.unit.column? = selected.column? := by
  cases selected <;> rfl

theorem label_unit (selected : Selected) : selected.unit.label = selected.label := by
  cases selected with
  | member base sub label => exact Option.or_none
  | _ => rfl

theorem renamings_list (terms : List Selected) :
    renamings (list terms) = terms.filterMap renaming? := by
  rw [renamings, ofItems_list, List.filterMap_map]
  refine List.filterMap_congr fun selected _ => ?_
  simp only [Function.comp_apply, SelectUnit.renaming?, column?_unit, label_unit, renaming?]

theorem exists_column? (notAll : selected ≠ everything) :
    ∃ column, selected.column? = some column := by
  cases selected with
  | everything => exact absurd rfl notAll
  | _ => exact ⟨_, rfl⟩

theorem isWildcard_of_mem_items {item : SelectItem} (isItem : item ∈ selected.items) :
    item.isWildcard = true ↔ selected = everything := by
  cases selected <;>
    simp only [items, unit, SelectUnit.items, List.mem_cons, List.not_mem_nil, or_false] at isItem
  case member => rcases isItem with rfl | rfl | rfl <;> simp [SelectItem.isWildcard]
  all_goals
    subst isItem
    simp [SelectItem.isWildcard]

theorem outputColumns_units (noWildcard : everything ∉ terms) :
    ((terms.map unit).filterMap SelectUnit.outputColumn?).map some =
      terms.map fun selected => selected.label.or selected.column? := by
  induction terms with
  | nil => rfl
  | cons selected rest ih =>
    rw [List.mem_cons, not_or] at noWildcard
    rcases exists_column? (Ne.symm noWildcard.1) with ⟨column, isColumn⟩
    have output : selected.unit.outputColumn? = some (selected.label.getD column) := by
      rw [SelectUnit.outputColumn?, column?_unit, label_unit, isColumn, Option.map_some]
    rw [List.map_cons, List.filterMap_cons, output]
    simp only [List.map_cons, ih noWildcard.2, isColumn]
    cases selected.label <;> rfl

/-- Each term gives one column, by its label if it has one. -/
theorem exists_outputColumns_list (nonempty : terms ≠ []) (noWildcard : everything ∉ terms) :
    ∃ columns, outputColumns (list terms) = some columns ∧
      columns.map some = terms.map fun selected => selected.label.or selected.column? := by
  have without : (list terms).any SelectItem.isWildcard = false := by
    rw [List.any_eq_false]
    intro item isItem isWildcard
    rcases List.mem_flatMap.1 isItem with ⟨selected, isTerm, isOne⟩
    exact noWildcard ((isWildcard_of_mem_items isOne).1 isWildcard ▸ isTerm)
  have someItem : (list terms).isEmpty = false := by
    simpa [list_eq_nil_iff] using nonempty
  refine ⟨_, by rw [outputColumns, without, someItem]; rfl, ?_⟩
  rw [ofItems_list]
  exact outputColumns_units noWildcard

/-! ## Labels -/

theorem label_of_mem_items {item : SelectItem} (isItem : item ∈ selected.items) :
    item.label = none ∨ item.label = selected.label := by
  cases selected <;>
    simp only [items, unit, SelectUnit.items, List.mem_cons, List.not_mem_nil, or_false] at isItem
  case member => rcases isItem with rfl | rfl | rfl <;> simp [label]
  all_goals
    subst isItem
    simp [label]

theorem label_ne_of_mem_list {label : String} (absent : ∀ selected ∈ terms,
    selected.label ≠ some label) : ∀ item ∈ list terms, item.label ≠ some label := by
  intro item isItem
  rcases List.mem_flatMap.1 isItem with ⟨selected, isTerm, isOne⟩
  rcases label_of_mem_items isOne with unlabelled | isLabel
  · rw [unlabelled]
    exact nofun
  · rw [isLabel]
    exact absent selected isTerm

/-- A label stands for what the first term that carries it selects. -/
theorem resolveLabel_list (terms : List Selected) (label : String) :
    resolveLabel (list terms) label =
      (terms.find? fun selected => selected.label == some label).bind node? := by
  cases found : terms.find? fun selected => selected.label == some label with
  | none =>
    have absent : ∀ selected ∈ terms, selected.label ≠ some label := by
      simpa using List.find?_eq_none.1 found
    exact SelectUnit.resolveLabel_eq_none (label_ne_of_mem_list absent)
  | some selected =>
    rcases List.find?_eq_some_iff_append.1 found with ⟨isLabel, before, after, rfl, absent⟩
    have earlier : ∀ item ∈ list before, item.label ≠ some label :=
      label_ne_of_mem_list (by simpa using absent)
    have regular : ∀ unit ∈ before.map Selected.unit, unit.Regular := fun _ => regular_of_mem
    have whole : list (before ++ selected :: after) =
        list before ++ (selected.items ++ list after) := by
      simp [list]
    rw [whole]
    cases selected with
    | everything => cases isLabel
    | member base sub label' =>
      exact SelectUnit.resolveLabel_path earlier (beq_iff_eq.1 isLabel) (list after)
    | call | field =>
      rw [list_eq before] at earlier ⊢
      exact SelectUnit.resolveLabel_single regular earlier (beq_iff_eq.1 isLabel) (list after)

/-! ## What is read -/

theorem exists_items_of_itemsOf {expr : Sql.Expr} {label : Option String} {items : List SelectItem}
    (isItems : itemsOf expr label = .ok items) : ∃ selected : Selected, selected.items = items := by
  unfold itemsOf at isItems
  split at isItems
  next name =>
    cases isItems
    exact ⟨field name.value label, rfl⟩
  next names =>
    split at isItems
    next sub base more _ =>
      cases isItems
      exact ⟨member (Sql.Identifier.path (base :: more).reverse) sub.value label, rfl⟩
    next =>
      cases isItems
      exact ⟨field _ label, rfl⟩
  next name _ arguments _ =>
    cases isItems
    exact ⟨call (Sql.Identifier.pathText name) (arguments.map Sql.Expr.toNode) label, rfl⟩
  next => cases isItems
  next =>
    cases isItems
    exact ⟨field expr.text label, rfl⟩

theorem exists_items_of_itemsOfTerm {term : Sql.SelectTerm} {items : List SelectItem}
    (isItems : itemsOfTerm term = .ok items) : ∃ selected : Selected, selected.items = items := by
  cases term with
  | wildcard =>
    cases isItems
    exact ⟨everything, rfl⟩
  | qualifiedWildcard => cases isItems
  | value expr label => exact exists_items_of_itemsOf isItems

/-- The items of a term of a statement are those of one selected term. -/
def IsRead (term : Sql.SelectTerm) (selected : Selected) : Prop :=
  itemsOfTerm term = .ok selected.items

theorem exists_list_of_mapM {read : List Sql.SelectTerm} {lists : List (List SelectItem)}
    (isLists : read.mapM itemsOfTerm = .ok lists) :
    ∃ terms : List Selected, lists.flatten = list terms ∧ List.Forall₂ IsRead read terms := by
  induction read generalizing lists with
  | nil =>
    cases isLists
    exact ⟨[], rfl, .nil⟩
  | cons term rest ih =>
    rw [List.mapM_cons] at isLists
    rcases bind_eq_ok_iff.1 isLists with ⟨items, isItems, isLists⟩
    rcases bind_eq_ok_iff.1 isLists with ⟨later, isLater, isLists⟩
    cases isLists
    rcases exists_items_of_itemsOfTerm isItems with ⟨selected, rfl⟩
    rcases ih isLater with ⟨terms, isList, areRead⟩
    exact ⟨selected :: terms, by rw [List.flatten_cons, isList]; rfl, .cons isItems areRead⟩

end Selected

/-- The select list of a statement; a statement that is no SELECT has none. -/
def Sql.Statement.terms : Sql.Statement → List Sql.SelectTerm
  | .select query => query.body.elim [] (·.terms)
  | _ => []

namespace Query

theorem exists_list_of_ofSelect {select : Sql.SelectQuery} {query : Query}
    (isQuery : Query.ofSelect select = .ok query) :
    ∃ terms : List Selected, query.select = Selected.list terms ∧
      List.Forall₂ Selected.IsRead (Sql.Statement.select select).terms terms := by
  unfold Query.ofSelect at isQuery
  split at isQuery
  next => cases isQuery
  next body isBody =>
    rcases bind_eq_ok_iff.1 isQuery with ⟨index, -, isQuery⟩
    rcases bind_eq_ok_iff.1 isQuery with ⟨lists, isLists, isQuery⟩
    rcases Selected.exists_list_of_mapM isLists with ⟨terms, isList, areRead⟩
    refine ⟨terms, ?_, by simpa [Sql.Statement.terms, isBody] using areRead⟩
    cases having : body.hasHaving with
    | true =>
      rw [having] at isQuery
      cases isQuery
    | false =>
      rw [having] at isQuery
      rcases bind_eq_ok_iff.1 isQuery with ⟨limit, -, isQuery⟩
      cases isQuery
      exact isList

/-- A query that is read from SQL text selects one term for each of those of its statement. -/
theorem exists_list_of_ofSql {text : String} {query : Query}
    (isQuery : Query.ofSql text = .ok query) :
    ∃ statement, ∃ terms : List Selected, Sql.statements? text = some [statement] ∧
      query.select = Selected.list terms ∧
      List.Forall₂ Selected.IsRead statement.terms terms := by
  unfold Query.ofSql at isQuery
  split at isQuery
  next => cases isQuery
  next select isStatement =>
    rcases exists_list_of_ofSelect isQuery with ⟨terms, isSelect, areRead⟩
    exact ⟨_, terms, isStatement, isSelect, areRead⟩
  next deletion isStatement =>
    unfold Query.ofDeletion at isQuery
    rcases bind_eq_ok_iff.1 isQuery with ⟨index, -, isQuery⟩
    rcases bind_eq_ok_iff.1 isQuery with ⟨limit, -, isQuery⟩
    cases isQuery
    exact ⟨_, [], isStatement, rfl, .nil⟩
  next => cases isQuery
  next => cases isQuery

end Query

/-! ## Walks -/

namespace Selected

/-- Each of the walks over a select list finds these terms in it. -/
structure Walked (select : List SelectItem) (terms : List Selected) : Prop where
  written : projectionSql select =
    .ok (if terms.isEmpty then "*" else ", ".intercalate (terms.map term))
  renamed : renamings select = terms.filterMap renaming?
  headed : terms ≠ [] → everything ∉ terms → ∃ columns, outputColumns select = some columns ∧
    columns.map some = terms.map fun selected => selected.label.or selected.column?
  resolved : ∀ label, resolveLabel select label =
    (terms.find? fun selected => selected.label == some label).bind node?

/-- A select list that is read has one term for each of those in its statement, and whatever the
terms of a list are, all who walk it find the same ones. -/
theorem walked_list :
    (∀ text query, Query.ofSql text = .ok query →
      ∃ statement, ∃ terms : List Selected, Sql.statements? text = some [statement] ∧
        query.select = list terms ∧ List.Forall₂ IsRead statement.terms terms) ∧
    ∀ terms, Walked (list terms) terms :=
  ⟨fun _ _ isQuery => Query.exists_list_of_ofSql isQuery,
    fun terms => ⟨projectionSql_list terms, renamings_list terms, exists_outputColumns_list,
      resolveLabel_list terms⟩⟩

/-- A call with a label, read from text; and a list in which a label stands for a member of an
object, whose column is headed by it. -/
theorem walked_list_member :
    (∃ statement, ∃ terms : List Selected,
      Sql.statements? "SELECT count(buyer) AS buyers FROM orders" = some [statement] ∧
      [⟨.call "count" [.field "buyer"], some "buyers"⟩] = list terms ∧
      List.Forall₂ IsRead statement.terms terms) ∧
    ∃ columns, outputColumns (list [.member "ship" "city" (some "to"), .field "total" none]) =
      some columns ∧ columns.map some = [some "to", some "total"] ∧
      resolveLabel (list [.member "ship" "city" (some "to"), .field "total" none]) "to" =
        some (.field "ship.city") := by
  have read : Query.ofSql "SELECT count(buyer) AS buyers FROM orders" =
      .ok (Query.selecting Query.buyerCount "orders") :=
    Query.ofSql_selecting Query.readable_buyerCount (by decide) (Query.noColumns_none _ _)
      (by decide +kernel)
  have walked := walked_list.2 [.member "ship" "city" (some "to"), .field "total" none]
  rcases walked.headed (by decide) nofun with ⟨columns, isColumns, areLabels⟩
  exact ⟨walked_list.1 _ _ read, columns, isColumns, areLabels, walked.resolved "to"⟩

end Selected

end SearchSql
