import SearchSql.NativeQuery
import Mathlib.Data.List.Forall2

/-!
# The completed sort of a native query

Completing the sort of a native query changes the specifications of the fields that it sorts by, and
nothing else. The relations below say so level by level, from a specification up to the query: each
pairs what stands in the query with what comes to stand in the same place, and `Completes` says of a
specification what is looked up in it afterwards and which members it has, in which order, without
saying how they got there.

A completed specification is not changed when it is completed again, and completing it is the only
change that a completed query could undergo, so that the second time changes nothing.
-/

namespace SearchSql.NativeQuery

/-- The members that say what is to become of documents without the field. -/
def missingNames : List String := ["unmapped_type", "missing"]

/-- The members that say anything else. -/
def otherMembers (spec : Record) : Record := spec.filter fun member => member.1 ∉ missingNames

/-- The specification puts documents without the field last, and is otherwise as it was. -/
structure Completes (spec completed : Record) : Prop where
  unmapped : Table.get? completed "unmapped_type" = some (.string "long")
  missing : Table.get? completed "missing" = some (.string "_last")
  others : otherMembers completed = otherMembers spec
  /-- The two members stand where they stood, or else at the end. -/
  names : Table.names completed =
    Table.names spec ++ missingNames.filter (· ∉ Table.names spec)

/-- The specification of a sort by a field, before and after. A text is the order of the sort. -/
inductive CompletesSpec : Json → Json → Prop
  | object {spec completed : Record} (completes : Completes spec completed) :
      CompletesSpec (.object spec) (.object completed)
  | order {order : String} {completed : Record}
      (completes : Completes [("order", .string order)] completed) :
      CompletesSpec (.string order) (.object completed)
  | other {value : Json} (noObject : ∀ spec, value ≠ .object spec)
      (noText : ∀ order, value ≠ .string order) : CompletesSpec value value

/-- A name of the engine's own, such as that of the score, and not of a field. -/
def IsReserved (name : String) : Prop := name.toList.head? = some '_'

/-- A member of an entry, before and after. -/
inductive CompletesMember : String × Json → String × Json → Prop
  | field {name : String} {spec completed : Json} (isField : ¬IsReserved name)
      (completes : CompletesSpec spec completed) : CompletesMember (name, spec) (name, completed)
  | reserved {name : String} {value : Json} (isReserved : IsReserved name) :
      CompletesMember (name, value) (name, value)

/-- An entry of a sort, before and after. -/
inductive CompletesEntry : Json → Json → Prop
  | field {name : String} (isField : ¬IsReserved name) :
      CompletesEntry (.string name)
        (.object [(name, .object [("order", .string "asc"), ("unmapped_type", .string "long"),
          ("missing", .string "_last")])])
  | reserved {name : String} (isReserved : IsReserved name) :
      CompletesEntry (.string name) (.string name)
  | fields {members completed : Record} (each : List.Forall₂ CompletesMember members completed) :
      CompletesEntry (.object members) (.object completed)
  | other {entry : Json} (noObject : ∀ members, entry ≠ .object members)
      (noText : ∀ name, entry ≠ .string name) : CompletesEntry entry entry

/-- The sort of a query, before and after. A value that is no array is the only entry. -/
inductive CompletesSort : Json → Json → Prop
  | list {entries completed : List Json} (each : List.Forall₂ CompletesEntry entries completed) :
      CompletesSort (.array entries) (.array completed)
  | single {entry completed : Json} (noArray : ∀ entries, entry ≠ .array entries)
      (completes : CompletesEntry entry completed) : CompletesSort entry (.array [completed])

/-- A part of a query, before and after. -/
inductive CompletesPart : String × Json → String × Json → Prop
  | sort {sort completed : Json} (completes : CompletesSort sort completed) :
      CompletesPart ("sort", sort) ("sort", completed)
  | other {name : String} {value : Json} (noSort : name ≠ "sort") :
      CompletesPart (name, value) (name, value)

/-- A native query, before and after. -/
inductive CompletesQuery : Json → Json → Prop
  | sorted {members completed : Record} (hasSort : "sort" ∈ Table.names members)
      (each : List.Forall₂ CompletesPart members completed) :
      CompletesQuery (.object members) (.object completed)
  | unsorted {query : Json} (noSort : query.member? "sort" = none) : CompletesQuery query query

theorem isEngineName_iff {name : String} : isEngineName name = true ↔ IsReserved name := by
  unfold isEngineName IsReserved
  cases name.toList <;> simp

theorem otherMembers_put {name : String} (isMissing : name ∈ missingNames) (value : Json)
    (spec : Record) : otherMembers (Table.put name value spec) = otherMembers spec := by
  unfold otherMembers
  induction spec with
  | nil => simp [Table.put, isMissing]
  | cons member rest ih =>
    by_cases same : member.1 = name
    · simp [Table.put, same, isMissing]
    · simp only [Table.put, beq_eq_false_iff_ne.2 same, Bool.false_eq_true, if_false,
        List.filter_cons, ih]

theorem completes_withMissingLast (spec : Record) : Completes spec (withMissingLast spec) where
  unmapped := by
    rw [withMissingLast, Table.get?_put, if_neg (by decide), Table.get?_put, if_pos rfl]
  missing := by
    rw [withMissingLast, Table.get?_put, if_pos rfl]
  others := by
    rw [withMissingLast, otherMembers_put (by decide), otherMembers_put (by decide)]
  names := by
    rw [withMissingLast, Table.names_put, Table.names_put]
    by_cases hasUnmapped : "unmapped_type" ∈ Table.names spec <;>
      by_cases hasMissing : "missing" ∈ Table.names spec <;>
        simp [missingNames, hasUnmapped, hasMissing]

theorem withMissingLast_withMissingLast (spec : Record) :
    withMissingLast (withMissingLast spec) = withMissingLast spec := by
  unfold withMissingLast
  have known : "unmapped_type" ∈ Table.names (Table.put "unmapped_type" (.string "long") spec) :=
    Table.mem_names_put spec _ _
  rw [Table.put_comm_of_mem known (by decide), Table.put_put_same, Table.put_put_same]

theorem completesSpec_sortSpec (spec : Json) : CompletesSpec spec (sortSpec spec) := by
  cases spec with
  | object spec => exact .object (completes_withMissingLast spec)
  | string order => exact .order (completes_withMissingLast _)
  | null | bool | number | array => exact .other nofun nofun

theorem sortSpec_sortSpec (spec : Json) : sortSpec (sortSpec spec) = sortSpec spec := by
  cases spec with
  | object spec | string order =>
    simp only [sortSpec, withMissingLast_withMissingLast]
  | null | bool | number | array => rfl

theorem completesEntry_sortEntry (entry : Json) : CompletesEntry entry (sortEntry entry) := by
  cases entry with
  | string name =>
    rw [sortEntry]
    split
    next isEngine => exact .reserved (isEngineName_iff.1 isEngine)
    next isField => exact .field (isEngineName_iff.not.1 isField)
  | object members =>
    refine .fields (List.forall₂_map_right_iff.2 (List.forall₂_same.2 ?_))
    rintro ⟨name, spec⟩ -
    dsimp only
    split
    next isEngine => exact .reserved (isEngineName_iff.1 isEngine)
    next isField => exact .field (isEngineName_iff.not.1 isField) (completesSpec_sortSpec spec)
  | null | bool | number | array => exact .other nofun nofun

theorem sortEntry_sortEntry (entry : Json) : sortEntry (sortEntry entry) = sortEntry entry := by
  cases entry with
  | string name =>
    cases isEngine : isEngineName name with
    | true => simp only [sortEntry, isEngine, if_true]
    | false =>
      simp only [sortEntry, isEngine, Bool.false_eq_true, if_false, List.map_cons, List.map_nil,
        sortSpec, withMissingLast_withMissingLast]
  | object members =>
    simp only [sortEntry, List.map_map]
    refine congrArg Json.object (List.map_congr_left ?_)
    rintro ⟨name, spec⟩ -
    cases isEngine : isEngineName name <;> simp [isEngine, sortSpec_sortSpec]
  | null | bool | number | array => rfl

theorem completesSort_sortEntries (sort : Json) :
    CompletesSort sort (.array (sortEntries sort)) := by
  cases sort with
  | array entries =>
    refine .list (List.forall₂_map_right_iff.2 (List.forall₂_same.2 ?_))
    exact fun entry _ => completesEntry_sortEntry entry
  | null | bool | number | string | object => exact .single nofun (completesEntry_sortEntry _)

theorem sortEntries_sortEntries (sort : Json) :
    sortEntries (.array (sortEntries sort)) = sortEntries sort := by
  cases sort with
  | array entries =>
    simp only [sortEntries, List.map_map]
    exact List.map_congr_left fun entry _ => sortEntry_sortEntry entry
  | null | bool | number | string | object =>
    simp only [sortEntries, List.map_cons, List.map_nil, sortEntry_sortEntry]

theorem withSortDefaults_of_unsorted {query : Json} (noSort : query.member? "sort" = none) :
    withSortDefaults query = query := by
  cases query with
  | object members =>
    have unknown : "sort" ∉ Table.names members := Table.get?_eq_none_iff.1 noSort
    have kept : ∀ member ∈ members, (member.1 == "sort") = false := by
      intro member isMember
      rw [beq_eq_false_iff_ne]
      intro isSort
      exact unknown (isSort ▸ List.mem_map_of_mem isMember)
    rw [withSortDefaults]
    refine congrArg Json.object ((List.map_congr_left ?_).trans (List.map_id members))
    intro member isMember
    simp [kept member isMember]
  | null | bool | number | string | array => rfl

theorem completesQuery_withSortDefaults (query : Json) :
    CompletesQuery query (withSortDefaults query) := by
  cases hasSort : query.member? "sort" with
  | none =>
    rw [withSortDefaults_of_unsorted hasSort]
    exact .unsorted hasSort
  | some sort =>
    cases query with
    | object members =>
      have known : "sort" ∈ Table.names members :=
        List.mem_map_of_mem (Table.mem_of_get? hasSort)
      refine .sorted known (List.forall₂_map_right_iff.2 (List.forall₂_same.2 ?_))
      rintro ⟨name, value⟩ -
      by_cases isSort : name = "sort"
      · subst isSort
        exact .sort (completesSort_sortEntries value)
      · simp only [beq_eq_false_iff_ne.2 isSort, Bool.false_eq_true, if_false]
        exact .other isSort
    | null | bool | number | string | array => cases hasSort

/--
The sort of every native query is completed: each field that it sorts by says what is to become of
documents without it, and all else stays as it is and where it is. Doing so again changes nothing.
-/
theorem withSortDefaults_completes (query : Json) :
    CompletesQuery query (withSortDefaults query) ∧
      withSortDefaults (withSortDefaults query) = withSortDefaults query := by
  refine ⟨completesQuery_withSortDefaults query, ?_⟩
  cases query with
  | object members =>
    simp only [withSortDefaults, List.map_map]
    refine congrArg Json.object (List.map_congr_left ?_)
    rintro ⟨name, value⟩ -
    by_cases isSort : name = "sort" <;> simp [isSort, sortEntries_sortEntries]
  | null | bool | number | string | array => rfl

/-- Entries of several kinds; a member that is there already keeps its place. -/
example :
    withSortDefaults (.object [("size", .null), ("sort", .array [.string "year", .string "_score",
      .object [("_id", .string "asc"), ("pop", .object [("missing", .null), ("mode", .null)])]])]) =
    .object [("size", .null), ("sort", .array [
      .object [("year", .object [("order", .string "asc"), ("unmapped_type", .string "long"),
        ("missing", .string "_last")])],
      .string "_score",
      .object [("_id", .string "asc"), ("pop", .object [("missing", .string "_last"),
        ("mode", .null), ("unmapped_type", .string "long")])]])] := by
  rfl

end SearchSql.NativeQuery
