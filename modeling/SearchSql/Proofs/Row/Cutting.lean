import SearchSql.Row.Column
import Mathlib.Data.List.Pairwise

/-!
# Cutting values out of a row

Cutting the value at a path out of a row gives what the path leads to, and leaves what any path
apart from it leads to as it was. Two paths are apart if neither leads through the other, which for
dotted names means that they differ and that neither lies below the other.

`take_cons_eq_some` says all that a cut can do to a row; the other lemmas are inductions with it.
-/

namespace SearchSql

namespace Path

/-- Neither path leads through the other. -/
def Apart (path other : List String) : Prop := ¬ path <+: other ∧ ¬ other <+: path

/-- The name goes on where the other ends. -/
def IsBelow (path base : String) : Prop := ∃ rest, path = base ++ "." ++ rest

/-- The part of a dotted name before the first dot. -/
def first (path : String) : String := (segments path).headD ""

/-- No two of the names are the same, and none lies below another. -/
def Separate (paths : List String) : Prop :=
  paths.Pairwise fun path other => path ≠ other ∧ ¬ IsBelow path other ∧ ¬ IsBelow other path

theorem exists_segments (path : String) : ∃ more, segments path = first path :: more := by
  cases parts : segments path with
  | nil => exact absurd parts (Text.split_ne_nil path)
  | cons part more => exact ⟨more, by rw [first, parts]; rfl⟩

theorem segments_of_plain {path : String} (plain : ¬ isDotted path = true) :
    segments path = [path] := by
  have noDot : '.' ∉ path.toList := by
    simpa [isDotted] using plain
  simp [segments, Text.split, Text.splitChars_of_not_mem noDot]

theorem eq_or_isBelow_of_segments {path base : String} (leads : segments base <+: segments path) :
    path = base ∨ IsBelow path base := by
  rcases leads with ⟨more, isPath⟩
  have whole := Text.intercalate_split path
  have wholeBase := Text.intercalate_split base
  change ".".intercalate (segments path) = path at whole
  change ".".intercalate (segments base) = base at wholeBase
  rw [← isPath] at whole
  by_cases isNil : more = []
  · left
    rw [← whole, isNil, List.append_nil, wholeBase]
  · right
    refine ⟨".".intercalate more, ?_⟩
    have someParts : segments base ≠ [] := Text.split_ne_nil base
    rw [← whole, String.intercalate_append_of_ne_nil someParts isNil, wholeBase]

theorem apart_of_separate {path other : String} (differs : path ≠ other)
    (notBelow : ¬ IsBelow path other) (notAbove : ¬ IsBelow other path) :
    Apart (segments path) (segments other) := by
  constructor
  · intro leads
    rcases eq_or_isBelow_of_segments leads with same | below
    · exact differs same.symm
    · exact notAbove below
  · intro leads
    rcases eq_or_isBelow_of_segments leads with same | below
    · exact differs same
    · exact notBelow below

theorem isBelow_iff {path base : String} :
    IsBelow path base ↔ (base ++ ".").toList <+: path.toList := by
  constructor
  · rintro ⟨rest, rfl⟩
    exact ⟨rest.toList, by simp only [String.toList_append]⟩
  · rintro ⟨rest, isPath⟩
    refine ⟨String.ofList rest, ?_⟩
    rw [← String.toList_inj, String.toList_append, String.toList_ofList, isPath]

instance (path base : String) : Decidable (IsBelow path base) := decidable_of_iff _ isBelow_iff.symm

instance (paths : List String) : Decidable (Separate paths) :=
  inferInstanceAs (Decidable (paths.Pairwise _))

/-- A part of a dotted name has no dot in it. -/
theorem segments_first (path : String) : segments (first path) = [first path] := by
  rcases exists_segments path with ⟨more, isPath⟩
  have member : first path ∈ segments path := by
    rw [isPath]
    exact List.mem_cons_self
  unfold segments at member ⊢
  rcases List.mem_map.1 member with ⟨part, isPart, isFirst⟩
  rw [← isFirst, Text.split, String.toList_ofList,
    Text.splitChars_of_not_mem (Text.not_mem_of_mem_splitChars isPart)]
  rfl

theorem Apart.symm {path other : List String} (apart : Apart path other) : Apart other path :=
  ⟨apart.2, apart.1⟩

theorem ne_of_apart {path other : String} (apart : Apart (segments path) (segments other)) :
    other ≠ path := by
  rintro rfl
  exact apart.1 List.prefix_rfl

theorem first_ne_of_apart {path other : String} (apart : Apart (segments path) (segments other)) :
    first other ≠ path := by
  rintro rfl
  rcases exists_segments other with ⟨more, isOther⟩
  apply apart.1
  rw [segments_first, isOther]
  exact List.cons_prefix_cons.2 ⟨rfl, List.nil_prefix⟩

section Separate

variable {α : Type} {items : List α} {name : α → Option String}

theorem Separate.pairwise (separate : Separate (items.filterMap name)) :
    items.Pairwise fun item other => ∀ path, name item = some path →
      ∀ otherPath, name other = some otherPath → Apart (segments path) (segments otherPath) := by
  rw [Separate, List.pairwise_filterMap] at separate
  refine separate.imp ?_
  intro item other separate path isPath otherPath isOther
  rcases separate path isPath otherPath isOther with ⟨differs, notBelow, notAbove⟩
  exact apart_of_separate differs notBelow notAbove

theorem Separate.apart (separate : Separate (items.filterMap name)) {item other : α}
    (isItem : item ∈ items) (isOther : other ∈ items) (differs : item ≠ other) {otherPath : String}
    (isPath : name item = some path) (isOtherPath : name other = some otherPath) :
    Apart (segments path) (segments otherPath) := by
  let NamesApart (item other : α) : Prop := ∀ path, name item = some path →
    ∀ otherPath, name other = some otherPath → Apart (segments path) (segments otherPath)
  have symmetric : Std.Symm NamesApart :=
    ⟨fun _ _ apart path isPath otherPath isOther => (apart otherPath isOther path isPath).symm⟩
  have pairwise : items.Pairwise NamesApart := separate.pairwise
  exact pairwise.forall isItem isOther differs path isPath otherPath isOtherPath

end Separate

variable {path other : List String} {record row : Record} {value : Json} {name : String}

/-- A cut removes a member, or puts what is left of an object in its place. -/
theorem take_cons_eq_some (taken : take (name :: path) record = some (value, row)) :
    (path = [] ∧ Table.get? record name = some value ∧ row = Table.erase name record) ∨
      ∃ child left, Table.get? record name = some (.object child) ∧
        take path child = some (value, left) ∧
        row = if left.isEmpty then Table.erase name record
          else Table.put name (.object left) record := by
  cases path with
  | nil =>
    simp only [take, Option.map_eq_some_iff, Prod.mk.injEq] at taken
    rcases taken with ⟨_, found, rfl, rfl⟩
    exact .inl ⟨rfl, found, rfl⟩
  | cons next path =>
    simp only [take, Option.bind_eq_some_iff, Option.map_eq_some_iff, Prod.mk.injEq] at taken
    rcases taken with ⟨child, ⟨object, found, isChild⟩, ⟨_, left⟩, cut, rfl, rfl⟩
    cases object with
    | object members =>
      cases isChild
      exact .inr ⟨child, left, found, cut, rfl⟩
    | _ => cases isChild

theorem find?_object (name : String) (path : List String) (record : Record) :
    find? (name :: path) (.object record) = (Table.get? record name).bind (find? path) := rfl

theorem find?_singleton (name : String) (record : Record) :
    find? [name] (.object record) = Table.get? record name :=
  Option.bind_fun_some _

/-- What is cut out is what the path leads to. -/
theorem map_fst_take (named : path ≠ []) :
    (take path record).map (·.1) = find? path (.object record) := by
  induction path generalizing record with
  | nil => exact absurd rfl named
  | cons name path ih =>
    cases path with
    | nil =>
      rw [find?_object, take, Option.map_map]
      cases Table.get? record name <;> rfl
    | cons next path =>
      simp only [find?_object, take]
      cases Table.get? record name with
      | none => rfl
      | some inner =>
        cases inner with
        | object child =>
          rw [Option.bind_some, Option.bind_some, ← ih (List.cons_ne_nil _ _)]
          simp only [Json.asRecord?, Option.bind_some, Option.map_map]
          rfl
        | _ => rfl

/-- Only the member that the path begins with changes. -/
theorem get?_of_take (taken : take (name :: path) record = some (value, row)) {wanted : String}
    (differs : wanted ≠ name) : Table.get? row wanted = Table.get? record wanted := by
  rcases take_cons_eq_some taken with ⟨-, -, rfl⟩ | ⟨child, left, -, -, rfl⟩
  · rw [Table.get?_erase, if_neg (Ne.symm differs)]
  · split
    · rw [Table.get?_erase, if_neg (Ne.symm differs)]
    · rw [Table.get?_put, if_neg (Ne.symm differs)]

theorem wellFormed_of_take (taken : take (name :: path) record = some (value, row))
    (wellFormed : Table.WellFormed record) : Table.WellFormed row := by
  rcases take_cons_eq_some taken with ⟨-, -, rfl⟩ | ⟨child, left, -, -, rfl⟩
  · exact wellFormed.erase name
  · split
    · exact wellFormed.erase name
    · exact wellFormed.put name _

/-- No member is new after a cut. -/
theorem names_subset_of_take (taken : take (name :: path) record = some (value, row)) :
    Table.names row ⊆ Table.names record := by
  have erased : Table.names (Table.erase name record) ⊆ Table.names record := by
    rw [Table.names_erase]
    exact List.filter_sublist.subset
  rcases take_cons_eq_some taken with ⟨-, -, rfl⟩ | ⟨child, left, found, -, rfl⟩
  · exact erased
  · split
    · exact erased
    · have known : name ∈ Table.names record := by
        apply Classical.byContradiction
        intro unknown
        rw [Table.get?_eq_none_iff.2 unknown] at found
        cases found
      rw [Table.names_put, if_pos known]
      exact List.Subset.refl _

/-- A path apart from the one that was cut leads to what it led to before. -/
theorem find?_of_take (taken : take path record = some (value, row)) (apart : Apart path other) :
    find? other (.object row) = find? other (.object record) := by
  induction path generalizing record row other with
  | nil => cases taken
  | cons name path ih =>
    cases other with
    | nil => exact absurd List.nil_prefix apart.2
    | cons first other =>
      rw [find?_object, find?_object]
      by_cases same : first = name
      · subst same
        have inner : Apart path other := by
          constructor
          · intro leads
            exact apart.1 (List.cons_prefix_cons.2 ⟨rfl, leads⟩)
          · intro leads
            exact apart.2 (List.cons_prefix_cons.2 ⟨rfl, leads⟩)
        rcases take_cons_eq_some taken with ⟨isNil, -, -⟩ | ⟨child, left, found, cut, rfl⟩
        · exact absurd (isNil ▸ List.nil_prefix) inner.1
        · have kept := ih cut inner
          rw [found, Option.bind_some, ← kept]
          cases isEmpty : left.isEmpty with
          | true =>
            -- the object is gone, and nothing was left in it
            rw [if_pos rfl, Table.get?_erase, if_pos rfl, List.isEmpty_iff.1 isEmpty]
            cases other with
            | nil => exact absurd List.nil_prefix inner.2
            | cons next other => rfl
          | false =>
            rw [if_neg Bool.false_ne_true, Table.get?_put, if_pos rfl]
            rfl
      · rw [get?_of_take taken same]

theorem find?_append (path more : List String) (value : Json) :
    find? (path ++ more) value = (find? path value).bind (find? more) := by
  induction path generalizing value with
  | nil => rfl
  | cons name path ih =>
    rw [List.cons_append, find?, find?, Option.bind_assoc]
    exact Option.bind_congr fun inner _ => ih inner

/-- A path through the one that was cut leads nowhere. -/
theorem find?_of_take_of_prefix (taken : take path record = some (value, row))
    (leads : path <+: other) : find? other (.object row) = none := by
  rcases leads with ⟨more, rfl⟩
  rw [find?_append, Option.bind_eq_none_iff]
  suffices gone : find? path (.object row) = none by simp [gone]
  induction path generalizing record row with
  | nil => cases taken
  | cons name path ih =>
    rw [find?_object]
    rcases take_cons_eq_some taken with ⟨-, -, rfl⟩ | ⟨child, left, -, cut, rfl⟩
    · rw [Table.get?_erase, if_pos rfl, Option.bind_none]
    · split
      · rw [Table.get?_erase, if_pos rfl, Option.bind_none]
      · rw [Table.get?_put, if_pos rfl, Option.bind_some, ih cut]

/-- A path that leads nowhere still leads nowhere after a cut. -/
theorem find?_eq_none_of_take (taken : take path record = some (value, row))
    (absent : find? other (.object record) = none) : find? other (.object row) = none := by
  by_cases through : path <+: other
  · exact find?_of_take_of_prefix taken through
  by_cases onTheWay : other <+: path
  · -- what is cut out is further along the other path
    rcases onTheWay with ⟨more, rfl⟩
    have named : other ++ more ≠ [] := by
      rintro isNil
      rw [isNil] at taken
      cases taken
    have found : (take (other ++ more) record).map (·.1) = find? (other ++ more) (.object record) :=
      map_fst_take named
    rw [taken, find?_append, absent] at found
    cases found
  · rw [find?_of_take taken ⟨through, onTheWay⟩, absent]

end Path

end SearchSql
