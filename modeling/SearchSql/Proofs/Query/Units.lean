import SearchSql.Query.Basic

/-!
# Select lists and their units

A select list is read unit by unit, and the units that a reader of SQL makes can be told from their
items again: no such unit begins or ends with a dot, so that a dot belongs to the field before it.
-/

namespace SearchSql.SelectUnit

/-- The items of a select list that make the unit. -/
def items : SelectUnit → List SelectItem
  | .path base _ sub => [base, ⟨.dot, none⟩, sub]
  | .single item => [item]

/-- A unit that a reader of SQL makes: fields around a dot, or anything that is no dot. -/
def Regular : SelectUnit → Prop
  | .path base basePath sub => base.selection = .field basePath ∧ ∃ path, sub.selection = .field path
  | .single item => item.selection ≠ .dot

variable {unit : SelectUnit} {units : List SelectUnit}

theorem Regular.first (regular : unit.Regular) :
    ∃ item more, unit.items = item :: more ∧ item.selection ≠ .dot := by
  cases unit with
  | path base basePath sub => exact ⟨base, _, rfl, by simp [regular.1]⟩
  | single item => exact ⟨item, [], rfl, regular⟩

theorem Regular.last (regular : unit.Regular) :
    ∃ front item, unit.items = front ++ [item] ∧ item.selection ≠ .dot := by
  cases unit with
  | path base basePath sub =>
    rcases regular.2 with ⟨path, isField⟩
    exact ⟨[base, ⟨.dot, none⟩], sub, rfl, by simp [isField]⟩
  | single item => exact ⟨[], item, rfl, regular⟩

theorem noDot_first (regular : ∀ unit ∈ units, unit.Regular) (label : Option String)
    (more : List SelectItem) : units.flatMap items ≠ ⟨.dot, label⟩ :: more := by
  cases units with
  | nil => simp
  | cons unit rest =>
    rcases (regular unit List.mem_cons_self).first with ⟨item, others, isItems, noDot⟩
    rw [List.flatMap_cons, isItems, List.cons_append]
    intro eq
    rw [(List.cons.inj eq).1] at noDot
    exact noDot rfl

theorem noDot_last (regular : ∀ unit ∈ units, unit.Regular) (label : Option String)
    (front : List SelectItem) : units.flatMap items ≠ front ++ [⟨.dot, label⟩] := by
  rcases List.eq_nil_or_concat units with rfl | ⟨rest, unit, rfl⟩
  · simp
  · rcases (regular unit (by simp)).last with ⟨others, item, isItems, noDot⟩
    rw [List.concat_eq_append, List.flatMap_append, List.flatMap_singleton, isItems,
      ← List.append_assoc]
    intro eq
    rw [List.append_inj_right' eq rfl |> List.singleton_inj.1] at noDot
    exact noDot rfl

/-- Regular units are what their items are read as. -/
theorem ofItems_flatMap_items (regular : ∀ unit ∈ units, unit.Regular) :
    ofItems (units.flatMap items) = units := by
  induction units with
  | nil => rfl
  | cons unit rest ih =>
    rcases List.forall_mem_cons.1 regular with ⟨here, later⟩
    have restUnits := ih later
    rw [List.flatMap_cons]
    cases unit with
    | path base basePath sub =>
      rcases base with ⟨selection, baseLabel⟩
      rcases here with ⟨isField, -⟩
      simp only at isField
      subst isField
      simp only [items, List.cons_append, List.nil_append, ofItems, restUnits]
    | single item =>
      rw [items, List.singleton_append, ofItems, restUnits]
      intro basePath label dotLabel third more isField isDot
      exact noDot_first later dotLabel (third :: more) isDot

theorem ofItems_cons (item : SelectItem) (rest : List SelectItem) :
    (∃ basePath sub more, ofItems (item :: rest) = .path item basePath sub :: more) ∨
      ofItems (item :: rest) = .single item :: ofItems rest := by
  rw [ofItems.eq_def (item :: rest)]
  split
  next isNil => cases isNil
  next isPath =>
    cases isPath
    exact .inl ⟨_, _, _, rfl⟩
  next isSingle =>
    cases isSingle
    exact .inr rfl

theorem ofItems_ne_nil {select : List SelectItem} (nonempty : select ≠ []) :
    ofItems select ≠ [] := by
  cases select with
  | nil => exact absurd rfl nonempty
  | cons item rest =>
    rcases ofItems_cons item rest with ⟨basePath, sub, more, isPath⟩ | isSingle
    · rw [isPath]
      exact List.cons_ne_nil _ _
    · rw [isSingle]
      exact List.cons_ne_nil _ _

end SearchSql.SelectUnit
