import SearchSql.Proofs.Query.Units
import SearchSql.Query.Prepare

/-!
# What a label stands for

The first item that carries a label is found by its place in the list, and the two items before it
tell whether it is a field of its own or the part of a path. Behind regular units the item before a
unit is no dot, so that only the sub-item of a path is taken for one.
-/

namespace SearchSql.SelectUnit

variable {units : List SelectUnit} {label : String}

theorem findIdx?_label {front : List SelectItem} {item : SelectItem}
    (earlier : ∀ other ∈ front, other.label ≠ some label) (isLabel : item.label = some label)
    (back : List SelectItem) :
    (front ++ item :: back).findIdx? (·.label == some label) = some front.length := by
  induction front with
  | nil => simp [List.findIdx?_cons, isLabel]
  | cons other front ih =>
    rcases List.forall_mem_cons.1 earlier with ⟨here, later⟩
    rw [List.cons_append, List.findIdx?_cons, beq_false_of_ne here, ih later]
    rfl

/-- A labelled item that begins a unit stands for itself. -/
theorem resolveLabel_single (regular : ∀ unit ∈ units, unit.Regular) {item : SelectItem}
    (earlier : ∀ other ∈ units.flatMap items, other.label ≠ some label)
    (isLabel : item.label = some label) (back : List SelectItem) :
    resolveLabel (units.flatMap items ++ item :: back) label = some item.selection.toNode := by
  generalize isFront : units.flatMap items = front at earlier ⊢
  rw [resolveLabel, findIdx?_label earlier isLabel]
  simp only [Option.bind_some, List.getElem?_append_right (Nat.le_refl _), Nat.sub_self,
    List.getElem?_cons_zero, Option.map_some]
  split
  next basePath isBase isDot =>
    -- what stands before the item is the last item of a unit, so no dot
    exfalso
    rcases List.eq_nil_or_concat front with rfl | ⟨init, last, rfl⟩
    · simp at isDot
    · rw [List.concat_eq_append] at isDot isFront
      rcases last with ⟨selection, lastLabel⟩
      have lastIsDot : selection = .dot := by simpa using isDot
      rw [lastIsDot] at isFront
      exact noDot_last regular lastLabel init isFront
  · rfl

/-- A labelled item behind a field and a dot stands for the path of the two. -/
theorem resolveLabel_path {front : List SelectItem} {base : String} {item : SelectItem}
    (earlier : ∀ other ∈ front, other.label ≠ some label) (isLabel : item.label = some label)
    (back : List SelectItem) :
    resolveLabel (front ++ ⟨.field base, none⟩ :: ⟨.dot, none⟩ :: item :: back) label =
      some (.field (dotted base item.selection.name)) := by
  have earlierWithBase : ∀ other ∈ front ++ [⟨.field base, none⟩, ⟨.dot, none⟩],
      other.label ≠ some label := by
    simpa [or_imp, forall_and] using earlier
  have found := findIdx?_label earlierWithBase isLabel back
  rw [List.append_assoc] at found
  simp only [List.cons_append, List.nil_append] at found
  rw [resolveLabel, found]
  simp

/-- A label that no item carries stands for nothing. -/
theorem resolveLabel_eq_none {select : List SelectItem}
    (absent : ∀ item ∈ select, item.label ≠ some label) : resolveLabel select label = none := by
  have notFound : select.findIdx? (·.label == some label) = none :=
    List.findIdx?_eq_none_iff.2 fun item isItem => beq_false_of_ne (absent item isItem)
  rw [resolveLabel, notFound]
  rfl

end SearchSql.SelectUnit
