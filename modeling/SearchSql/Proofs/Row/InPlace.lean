import SearchSql.Proofs.Row.Cutting

/-!
# Cutting in place

A cut changes a row where it stands: each object on the way is taken out of the one around it and is
put back, or dropped if nothing is left in it. `Path.cut` says it so, with the row as it stands
afterwards also when there was nothing to cut out, and `Path.cut_eq` says that this comes to the
same as `Path.take`.

What is left of a row is described by what paths lead to in it (`Path.Leaves`). The description
rests on `Path.find?_way_of_take`, which tells for every object on the way that what stands in its
place is that object after the rest of the cut.
-/

namespace SearchSql

namespace Table

variable {α : Type} {table : Table α} {name : String} {value : α}

theorem put_of_get? (found : get? table name = some value) : put name value table = table := by
  induction table with
  | nil => cases found
  | cons entry rest ih =>
    rw [get?_cons] at found
    by_cases same : entry.1 = name
    · rw [if_pos same, Option.some.injEq] at found
      simp [put, same, ← found, Prod.ext_iff]
    · rw [if_neg same] at found
      simp [put, same, ih found]

theorem erase_of_get?_eq_none (absent : get? table name = none) : erase name table = table := by
  rw [get?_eq_none_iff] at absent
  refine List.filter_eq_self.2 fun entry isEntry => bne_iff_ne.2 ?_
  rintro rfl
  exact absent (List.mem_map_of_mem isEntry)

end Table

namespace Path

/-- Cuts the value at a path out of a row where it stands: what was cut, and the row after it. -/
def cut : List String → Record → Option Json × Record
  | [], record => (none, record)
  | [name], record => (Table.get? record name, Table.erase name record)
  | name :: rest, record =>
    match (Table.get? record name).bind Json.asRecord? with
    | none => (none, record)
    | some child =>
      let (value, left) := cut rest child
      (value,
        if value.isSome && left.isEmpty then Table.erase name record
        else Table.put name (.object left) record)

/-- What is left of a row when the value at a path has been cut out of it. -/
structure Leaves (path : List String) (record left : Record) : Prop where
  gone : find? path (.object left) = none
  /-- No object on the way is left empty. -/
  noneEmpty : ∀ way, way <+: path → way ≠ [] → find? way (.object left) ≠ some (.object [])
  /-- An object on the way is dropped only if the way through it led nowhere else. -/
  emptied : ∀ way, way <+: path → way ≠ [] → way ≠ path → (find? way (.object left) = none ↔
    ∀ other, way <+: other → Apart path other → find? other (.object record) = none)
  kept : ∀ other, Apart path other → find? other (.object left) = find? other (.object record)
  /-- Wherever an object remains, the members that are left in it keep their order. -/
  ordered : ∀ way before after, find? way (.object record) = some (.object before) →
    find? way (.object left) = some (.object after) →
    List.Sublist (Table.names after) (Table.names before)

variable {path way below other : List String} {record left : Record} {value : Json} {name : String}

theorem cut_eq (path : List String) (record : Record) :
    cut path record =
      ((take path record).map (·.1), ((take path record).map (·.2)).getD record) := by
  induction path generalizing record with
  | nil => rfl
  | cons name path ih =>
    cases path with
    | nil =>
      cases found : Table.get? record name with
      | none => simp [cut, take, found, Table.erase_of_get?_eq_none found]
      | some value => simp [cut, take, found]
    | cons next path =>
      cases isChild : (Table.get? record name).bind Json.asRecord? with
      | none => simp [cut, take, isChild]
      | some child =>
        have found := Json.bind_asRecord?_eq_some_iff.1 isChild
        cases taken : take (next :: path) child with
        | none => simp [cut, take, isChild, ih, taken, Table.put_of_get? found]
        | some outcome => simp [cut, take, isChild, ih, taken]

/-- In the place of an object on the way stands what the cut leaves of it, if anything. -/
theorem find?_way_of_take (taken : take (way ++ below) record = some (value, left))
    (named : way ≠ []) (further : below ≠ []) :
    ∃ child rest, find? way (.object record) = some (.object child) ∧
      take below child = some (value, rest) ∧
      find? way (.object left) = if rest.isEmpty then none else some (.object rest) := by
  induction way generalizing record left with
  | nil => exact absurd rfl named
  | cons name way ih =>
    rcases take_cons_eq_some taken with ⟨isNil, -, -⟩ | ⟨child, rest, found, cut, rfl⟩
    · exact absurd (List.append_eq_nil_iff.1 isNil).2 further
    by_cases ends : way = []
    · subst ends
      refine ⟨child, rest, ?_, cut, ?_⟩
      · rw [find?_singleton, found]
      · rw [find?_singleton]
        split <;> simp [Table.get?_erase, Table.get?_put]
    · rcases ih cut ends with ⟨inner, left, isInner, innerCut, stands⟩
      refine ⟨inner, left, ?_, innerCut, ?_⟩
      · rw [find?_object, found]
        exact isInner
      rw [← stands, find?_object]
      cases isEmpty : rest.isEmpty with
      | true =>
        -- nothing is left of the object, and so of no object further on
        rw [if_pos rfl, Table.get?_erase, if_pos rfl, List.isEmpty_iff.1 isEmpty]
        cases way with
        | nil => exact absurd rfl ends
        | cons next way => rfl
      | false => rw [if_neg Bool.false_ne_true, Table.get?_put, if_pos rfl, Option.bind_some]

theorem names_sublist_of_take (taken : take path record = some (value, left)) :
    List.Sublist (Table.names left) (Table.names record) := by
  have erased (name : String) :
      List.Sublist (Table.names (Table.erase name record)) (Table.names record) := by
    rw [Table.names_erase]
    exact List.filter_sublist
  cases path with
  | nil => cases taken
  | cons name path =>
    rcases take_cons_eq_some taken with ⟨-, -, rfl⟩ | ⟨child, rest, found, -, rfl⟩
    · exact erased name
    · have known : name ∈ Table.names record := List.mem_map_of_mem (Table.mem_of_get? found)
      split
      · exact erased name
      · have same := Table.names_put record name (.object rest)
        rw [if_pos known] at same
        exact same.symm ▸ List.Sublist.refl _

/-- If anything is left of a row, then a path apart from the cut leads to some of it. -/
theorem exists_apart_of_take (taken : take path record = some (value, left)) (some : left ≠ []) :
    ∃ other, Apart path other ∧ find? other (.object record) ≠ none := by
  induction path generalizing record left with
  | nil => cases taken
  | cons name path ih =>
    rcases List.exists_cons_of_ne_nil some with ⟨member, rest, rfl⟩
    have remains : Table.get? (member :: rest) member.1 = .some member.2 := by
      rw [Table.get?_cons, if_pos rfl]
    by_cases same : member.1 = name
    · rcases take_cons_eq_some taken with ⟨-, -, isLeft⟩ | ⟨child, left, found, cut, isLeft⟩
      · rw [isLeft, Table.get?_erase, if_pos same.symm] at remains
        cases remains
      · split at isLeft
        · rw [isLeft, Table.get?_erase, if_pos same.symm] at remains
          cases remains
        next isSome =>
          rcases ih cut (fun isNil => isSome (List.isEmpty_iff.2 isNil)) with
            ⟨other, apart, leads⟩
          refine ⟨name :: other, ?_, ?_⟩
          · simpa [Apart, List.cons_prefix_cons] using apart
          · rwa [find?_object, found]
    · refine ⟨[member.1], ?_, ?_⟩
      · simp [Apart, List.cons_prefix_cons, same, Ne.symm same]
      · rw [find?_singleton, ← get?_of_take taken same, remains]
        nofun

theorem apart_append_iff : Apart (way ++ below) (way ++ other) ↔ Apart below other := by
  simp only [Apart, List.prefix_append_right_inj]

/-- An object on the way is dropped if nothing is left of it, and is never left empty. -/
theorem find?_way_eq_none_iff (taken : take (way ++ below) record = some (value, left))
    (named : way ≠ []) (further : below ≠ []) :
    find? way (.object left) = none ↔
      ∀ other, Apart below other → find? (way ++ other) (.object record) = none := by
  rcases find?_way_of_take taken named further with ⟨child, rest, isChild, cut, stands⟩
  have leads : ∀ other, find? (way ++ other) (.object record) = find? other (.object child) := by
    intro other
    rw [find?_append, isChild, Option.bind_some]
  rw [stands]
  constructor
  · intro dropped other apart
    have isEmpty : rest = [] := by
      simpa using dropped
    rw [leads, ← find?_of_take cut apart, isEmpty]
    cases other with
    | nil => exact absurd List.nil_prefix apart.2
    | cons name other => rfl
  · intro nowhere
    by_contra remains
    have isSome : rest ≠ [] := by
      simpa using remains
    rcases exists_apart_of_take cut isSome with ⟨other, apart, isFound⟩
    rw [← leads] at isFound
    exact isFound (nowhere other apart)

theorem leaves_of_take (taken : take path record = some (value, left)) :
    Leaves path record left where
  gone := find?_of_take_of_prefix taken List.prefix_rfl
  noneEmpty := by
    rintro way ⟨below, rfl⟩ named isEmpty
    by_cases further : below = []
    · subst further
      rw [List.append_nil] at taken
      have gone := find?_of_take_of_prefix taken List.prefix_rfl
      cases gone.symm.trans isEmpty
    · rcases find?_way_of_take taken named further with ⟨child, rest, -, -, stands⟩
      rw [stands] at isEmpty
      split at isEmpty
      · cases isEmpty
      next remains =>
        cases isEmpty
        exact remains rfl
  emptied := by
    rintro way ⟨below, rfl⟩ named further
    have further : below ≠ [] := by
      simpa using further
    rw [find?_way_eq_none_iff taken named further]
    constructor
    · rintro nowhere _ ⟨other, rfl⟩ apart
      exact nowhere other (apart_append_iff.1 apart)
    · intro nowhere other apart
      exact nowhere _ (List.prefix_append way other) (apart_append_iff.2 apart)
  kept other apart := find?_of_take taken apart
  ordered := by
    intro way before after isBefore isAfter
    by_cases through : path <+: way
    · have gone := find?_of_take_of_prefix taken through
      cases gone.symm.trans isAfter
    by_cases onTheWay : way <+: path
    · rcases onTheWay with ⟨below, rfl⟩
      have further : below ≠ [] := by
        intro isNil
        rw [isNil, List.append_nil] at through
        exact through List.prefix_rfl
      by_cases isRoot : way = []
      · subst isRoot
        cases isBefore
        cases isAfter
        exact names_sublist_of_take taken
      · rcases find?_way_of_take taken isRoot further with ⟨child, rest, isChild, cut, stands⟩
        cases isChild.symm.trans isBefore
        rw [stands] at isAfter
        split at isAfter
        · cases isAfter
        · cases isAfter
          exact names_sublist_of_take cut
    · rw [find?_of_take taken ⟨through, onTheWay⟩] at isAfter
      cases isBefore.symm.trans isAfter
      exact List.Sublist.refl _

/--
Cutting the value at a dotted path out of a row in place gives what reading the path gives. If it
leads nowhere, then the row stays as it is, and otherwise nothing is gone but the value and the
objects that held nothing else.
-/
theorem cut_segments (path : String) (record : Record) :
    let outcome := cut (segments path) record
    take (segments path) record = outcome.1.map (·, outcome.2) ∧
      outcome.1 = find? (segments path) (.object record) ∧
      (outcome.1 = none → outcome.2 = record) ∧
      (outcome.1 ≠ none → Leaves (segments path) record outcome.2) := by
  have named : segments path ≠ [] := Text.split_ne_nil path
  generalize segments path = names at named ⊢
  intro outcome
  have isOutcome : outcome = cut names record := rfl
  have reads : (take names record).map (·.1) = find? names (.object record) := map_fst_take named
  cases taken : take names record with
  | none =>
    rw [cut_eq, taken] at isOutcome
    rw [taken] at reads
    rw [isOutcome]
    exact ⟨rfl, reads, fun _ => rfl, fun found => absurd rfl found⟩
  | some found =>
    rw [cut_eq, taken] at isOutcome
    rw [taken] at reads
    rw [isOutcome]
    exact ⟨rfl, reads, nofun, fun _ => leaves_of_take taken⟩

/-- An object between two others goes with its only member; the one around it has another. -/
theorem cut_segments_of_town :
    let record : Record := [("name", .string "Ana"), ("home", .object [
      ("area", .object [("town", .string "Oporto")]), ("code", .bool true)]), ("age", .null)]
    let left : Record := [("name", .string "Ana"), ("home", .object [("code", .bool true)]),
      ("age", .null)]
    cut (segments "home.area.town") record = (some (.string "Oporto"), left) ∧
      Leaves (segments "home.area.town") record left ∧
      cut (segments "home.code.town") record = (none, record) := by
  intro record left
  have found : cut (segments "home.area.town") record = (some (.string "Oporto"), left) := by rfl
  have missing : (cut (segments "home.code.town") record).1 = none := by rfl
  have leaves := (cut_segments "home.area.town" record).2.2.2
  have unchanged := (cut_segments "home.code.town" record).2.2.1 missing
  rw [found] at leaves
  exact ⟨found, leaves nofun, Prod.ext missing unchanged⟩

end Path

end SearchSql
