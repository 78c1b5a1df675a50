import SearchSql.Proofs.Row.Cutting
import Mathlib.Data.List.Nodup

/-!
# Renaming columns

A renaming gives the value of a column to the label and takes it from the row, either in its place
or out of the objects of the row. With a label that is new to the row, it changes nothing about
members and columns that the renamed column does not lead through (`Renames`). Renamings that do not
get into each other's way can therefore be carried out one after the other: each still finds the
column as it was in the row at the start (`relabels_foldl`).
-/

namespace SearchSql

namespace Row

open SearchSql.Path

variable {row next : Record} {column label other : String}

theorem names_map_rename (row : Record) (column label : String) :
    Table.names (row.map fun member => if member.1 == column then (label, member.2) else member) =
      row.names.map fun name => if name = column then label else name := by
  rw [Table.names, Table.names, List.map_map, List.map_map]
  refine List.map_congr_left fun member _ => ?_
  by_cases isColumn : member.1 = column <;> simp [isColumn]

theorem renameMember_eq (wellFormed : Table.WellFormed row) (new : label ∉ Table.names row) :
    Table.WellFormed (renameMember column label row) ∧ renameMember column label row =
      row.map fun member => if member.1 == column then (label, member.2) else member := by
  let renamed := row.map fun member => if member.1 == column then (label, member.2) else member
  have distinct : Table.WellFormed renamed := by
    unfold Table.WellFormed
    rw [names_map_rename]
    refine List.Nodup.map_on ?_ wellFormed
    intro name isName other isOther same
    by_cases isColumn : name = column
    · by_cases otherColumn : other = column
      · exact isColumn.trans otherColumn.symm
      · rw [if_pos isColumn, if_neg otherColumn] at same
        exact absurd (same ▸ isOther) new
    · by_cases otherColumn : other = column
      · rw [if_neg isColumn, if_pos otherColumn] at same
        exact absurd (same ▸ isName) new
      · rwa [if_neg isColumn, if_neg otherColumn] at same
  rw [renameMember, Table.ofEntries_of_wellFormed distinct]
  exact ⟨distinct, rfl⟩

theorem get?_renameMember (wellFormed : Table.WellFormed row) (new : label ∉ Table.names row)
    (wanted : String) :
    Table.get? (renameMember column label row) wanted =
      if wanted = label then Table.get? row column
      else if wanted = column then none else Table.get? row wanted := by
  rw [(renameMember_eq wellFormed new).2]
  clear wellFormed
  induction row with
  | nil => simp
  | cons member row ih =>
    simp only [Table.names, List.map_cons, List.mem_cons, not_or] at new
    rw [List.map_cons, Table.get?_cons, ih new.2, Table.get?_cons, Table.get?_cons]
    by_cases isColumn : member.1 = column
    · simp only [isColumn, beq_self_eq_true, if_true]
      grind
    · have notLabel : member.1 ≠ label := Ne.symm new.1
      simp only [isColumn, beq_iff_eq, if_false]
      grind

theorem names_renameMember (wellFormed : Table.WellFormed row) (new : label ∉ Table.names row)
    {name : String} (isName : name ∈ Table.names (renameMember column label row)) :
    name = label ∨ name ∈ Table.names row := by
  by_cases isLabel : name = label
  · exact .inl isLabel
  · right
    apply Classical.byContradiction
    intro unknown
    refine Table.get?_eq_none_iff.1 ?_ isName
    rw [get?_renameMember wellFormed new, if_neg isLabel, Table.get?_eq_none_iff.2 unknown,
      ite_self]

/-- What a renaming does to a row in which the label is new. -/
structure Renames (row next : Record) (column label : String) : Prop where
  wellFormed : Table.WellFormed next
  names : ∀ name ∈ Table.names next, name = label ∨ name ∈ Table.names row
  moved : Table.get? next label = columnValue? row column
  kept : ∀ name, name ≠ label → name ≠ column → name ≠ first column →
    Table.get? next name = Table.get? row name
  apart : ∀ other, other ≠ label → first other ≠ label →
    Apart (segments column) (segments other) → columnValue? next other = columnValue? row other

theorem columnValue?_congr (same : Table.get? next other = Table.get? row other)
    (sameFirst : Table.get? next (first other) = Table.get? row (first other)) :
    columnValue? next other = columnValue? row other := by
  rcases exists_segments other with ⟨more, isOther⟩
  rw [columnValue?, columnValue?, same, isOther, find?_object, find?_object, sameFirst]

theorem renames_renameMember (wellFormed : Table.WellFormed row) (new : label ∉ Table.names row)
    {value : Json} (found : Table.get? row column = some value) :
    Renames row (renameMember column label row) column label := by
  have isValue : columnValue? row column = Table.get? row column := by
    rw [columnValue?, found]
    rfl
  have kept : ∀ name, name ≠ label → name ≠ column →
      Table.get? (renameMember column label row) name = Table.get? row name := by
    intro name notLabel notColumn
    rw [get?_renameMember wellFormed new, if_neg notLabel, if_neg notColumn]
  refine ⟨(renameMember_eq wellFormed new).1, fun name => names_renameMember wellFormed new, ?_,
    fun name notLabel notColumn _ => kept name notLabel notColumn, ?_⟩
  · rw [get?_renameMember wellFormed new, if_pos rfl, isValue]
  · intro other notLabel firstNotLabel apart
    exact columnValue?_congr (kept _ notLabel (Path.ne_of_apart apart))
      (kept _ firstNotLabel (Path.first_ne_of_apart apart))

theorem renames_put (wellFormed : Table.WellFormed row) {value : Json}
    {rest : Record} (absent : Table.get? row column = none)
    (taken : take (segments column) row = some (value, rest)) :
    Renames row (Table.put label value rest) column label := by
  rcases exists_segments column with ⟨more, isPath⟩
  have isValue : columnValue? row column = some value := by
    rw [columnValue?, absent, ← map_fst_take (by simp [isPath]), taken]
    rfl
  rw [isPath] at taken
  have kept : ∀ name, name ≠ label → name ≠ first column →
      Table.get? (Table.put label value rest) name = Table.get? row name := by
    intro name notLabel notFirst
    rw [Table.get?_put, if_neg (Ne.symm notLabel), get?_of_take taken notFirst]
  refine ⟨(wellFormed_of_take taken wellFormed).put label value, ?_, ?_,
    fun name notLabel _ notFirst => kept name notLabel notFirst, ?_⟩
  · intro name isName
    rw [Table.names_put] at isName
    split at isName
    · exact .inr (names_subset_of_take taken isName)
    · rcases List.mem_append.1 isName with known | isLabel
      · exact .inr (names_subset_of_take taken known)
      · exact .inl (List.mem_singleton.1 isLabel)
  · rw [Table.get?_put, if_pos rfl, isValue]
  · intro other notLabel firstNotLabel apart
    rcases exists_segments other with ⟨others, isOther⟩
    have flat := kept other notLabel (Ne.symm (Path.first_ne_of_apart apart.symm))
    have nested := find?_of_take taken (isPath ▸ apart)
    rw [isOther, find?_object, find?_object] at nested
    rw [columnValue?, columnValue?, flat, isOther, find?_object, find?_object, Table.get?_put,
      if_neg (Ne.symm firstNotLabel), nested]

theorem columnValue?_eq_none_iff : columnValue? row column = none ↔
    Table.get? row column = none ∧ find? (segments column) (.object row) = none :=
  Option.or_eq_none_iff

/--
A column that leads nowhere, or has the label already, leaves the row as it is; a member takes the
label where it stands; and what is inside an object is cut out and put under the label.
-/
theorem rename_cases (row : Record) (column label : String) :
    ((column = label ∨ columnValue? row column = none) ∧ rename row (column, label) = row) ∨
    (∃ value, Table.get? row column = some value ∧
      rename row (column, label) = renameMember column label row) ∨
    (Table.get? row column = none ∧ ∃ value rest, take (segments column) row = some (value, rest) ∧
      rename row (column, label) = Table.put label value rest) := by
  unfold rename
  by_cases same : column = label
  · exact .inl ⟨.inl same, if_pos same⟩
  simp only [same, if_false]
  cases has : Table.has row column with
  | true =>
    rw [Table.has_eq_isSome_get?, Option.isSome_iff_exists] at has
    rcases has with ⟨value, found⟩
    exact .inr (.inl ⟨value, found, rfl⟩)
  | false =>
    have absent : Table.get? row column = none := by
      simpa [Table.has_eq_isSome_get?] using has
    simp only [Bool.false_eq_true, if_false]
    split
    · split
      next value rest taken => exact .inr (.inr ⟨absent, value, rest, taken, rfl⟩)
      next none =>
        refine .inl ⟨.inr (columnValue?_eq_none_iff.2 ⟨absent, ?_⟩), rfl⟩
        rw [← map_fst_take, none]
        · rfl
        · exact Text.split_ne_nil column
    next plain =>
      refine .inl ⟨.inr (columnValue?_eq_none_iff.2 ⟨absent, ?_⟩), rfl⟩
      rw [segments_of_plain plain, find?_object, absent, Option.bind_none]

theorem renames_rename (wellFormed : Table.WellFormed row) (new : label ∉ Table.names row)
    (differs : column ≠ label) : Renames row (rename row (column, label)) column label := by
  rcases rename_cases row column label with
    ⟨same | nowhere, isNext⟩ | ⟨value, found, isNext⟩ | ⟨absent, value, rest, taken, isNext⟩
  · exact absurd same differs
  · rw [isNext]
    refine ⟨wellFormed, fun name => .inr, ?_, fun _ _ _ _ => rfl, fun _ _ _ _ => rfl⟩
    rw [nowhere, Table.get?_eq_none_iff.2 new]
  · rw [isNext]
    exact renames_renameMember wellFormed new found
  · rw [isNext]
    exact renames_put wellFormed absent taken

/-- What a list of renamings does to a row, all of whose labels are new. -/
structure Relabels (row next : Record) (changes : List (String × String)) : Prop where
  names : ∀ name ∈ Table.names next, name ∈ Table.names row ∨ ∃ change ∈ changes, name = change.2
  moved : ∀ change ∈ changes, Table.get? next change.2 = columnValue? row change.1
  kept : ∀ name, (∀ change ∈ changes, name ≠ change.2 ∧ name ≠ change.1 ∧ name ≠ first change.1) →
    Table.get? next name = Table.get? row name
  apart : ∀ other, (∀ change ∈ changes, other ≠ change.2 ∧ first other ≠ change.2 ∧
    Apart (segments change.1) (segments other)) → columnValue? next other = columnValue? row other

/-- Renamings that do not get into each other's way. -/
structure Harmless (changes : List (String × String)) : Prop where
  columns : changes.Pairwise fun change other => Apart (segments change.1) (segments other.1)
  labels : changes.Pairwise fun change other => change.2 ≠ other.2
  clear : ∀ change ∈ changes, ∀ other ∈ changes,
    change.2 ≠ other.1 ∧ change.2 ≠ first other.1

theorem relabels_foldl {changes : List (String × String)} (harmless : Harmless changes)
    (wellFormed : Table.WellFormed row)
    (new : ∀ change ∈ changes, change.2 ∉ Table.names row) :
    Relabels row (changes.foldl rename row) changes := by
  induction changes generalizing row with
  | nil => exact ⟨fun _ => .inl, nofun, fun _ _ => rfl, fun _ _ => rfl⟩
  | cons change changes ih =>
    rcases change with ⟨column, label⟩
    rcases List.pairwise_cons.1 harmless.columns with ⟨columnsHere, columnsLater⟩
    rcases List.pairwise_cons.1 harmless.labels with ⟨labelsHere, labelsLater⟩
    rcases List.forall_mem_cons.1 new with ⟨newHere, newLater⟩
    rcases List.forall_mem_cons.1 harmless.clear with ⟨clearHere, clearLater⟩
    have differs : column ≠ label := Ne.symm (clearHere _ List.mem_cons_self).1
    have here := renames_rename wellFormed newHere differs
    have harmlessLater : Harmless changes :=
      ⟨columnsLater, labelsLater, fun change isChange other isOther =>
        clearLater change isChange other (List.mem_cons_of_mem _ isOther)⟩
    have newNext : ∀ change ∈ changes, change.2 ∉ Table.names (rename row (column, label)) := by
      intro change isChange isName
      rcases here.names _ isName with same | known
      · exact labelsHere change isChange same.symm
      · exact newLater change isChange known
    have later := ih harmlessLater here.wellFormed newNext
    rw [List.foldl_cons]
    refine ⟨?_, List.forall_mem_cons.2 ⟨?_, ?_⟩, ?_, ?_⟩
    · intro name isName
      rcases later.names name isName with known | ⟨change, isChange, isLabel⟩
      · rcases here.names name known with isLabel | known
        · exact .inr ⟨_, List.mem_cons_self, isLabel⟩
        · exact .inl known
      · exact .inr ⟨change, List.mem_cons_of_mem _ isChange, isLabel⟩
    · -- the later renamings leave the label alone
      rw [← here.moved]
      refine later.kept label fun change isChange => ⟨labelsHere change isChange, ?_⟩
      exact clearHere change (List.mem_cons_of_mem _ isChange)
    · intro change isChange
      have clear := clearHere change (List.mem_cons_of_mem _ isChange)
      rw [later.moved change isChange]
      exact here.apart change.1 clear.1.symm clear.2.symm (columnsHere change isChange)
    · intro name isOther
      rcases List.forall_mem_cons.1 isOther with ⟨otherHere, otherLater⟩
      rw [later.kept name otherLater]
      exact here.kept name otherHere.1 otherHere.2.1 otherHere.2.2
    · intro other isOther
      rcases List.forall_mem_cons.1 isOther with ⟨otherHere, otherLater⟩
      rw [later.apart other otherLater]
      exact here.apart other otherHere.1 otherHere.2.1 otherHere.2.2

end Row

end SearchSql
