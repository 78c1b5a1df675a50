/-!
# Tables in order

Values under names, kept in the order in which the names were first put. `Table.get?` is what a
table says about a name, and the lemmas below tell what putting and erasing change about it and
about the order of the names.
-/

namespace SearchSql

abbrev Table (α : Type) := List (String × α)

namespace Table

variable {α : Type}

def get? (table : Table α) (name : String) : Option α :=
  (table.find? fun entry => entry.1 == name).map (·.2)

def has (table : Table α) (name : String) : Bool :=
  table.any fun entry => entry.1 == name

def names (table : Table α) : List String := table.map (·.1)

/-- Gives a name a value: in its place when the name is there, at the end otherwise. -/
def put (name : String) (value : α) : Table α → Table α
  | [] => [(name, value)]
  | (name', value') :: rest =>
    if name' == name then (name', value) :: rest else (name', value') :: put name value rest

/-- Puts entries one after the other. -/
def putAll (table : Table α) (entries : List (String × α)) : Table α :=
  entries.foldl (fun table entry => put entry.1 entry.2 table) table

/-- The table of a list of entries, in which a name that comes again takes its last value. -/
def ofEntries (entries : List (String × α)) : Table α := putAll [] entries

def erase (name : String) (table : Table α) : Table α :=
  table.filter fun entry => entry.1 != name

/-- Every name occurs once. -/
def WellFormed (table : Table α) : Prop := table.names.Nodup

instance (table : Table α) : Decidable table.WellFormed :=
  inferInstanceAs (Decidable table.names.Nodup)

@[simp]
theorem get?_nil (name : String) : get? ([] : Table α) name = none := rfl

@[simp]
theorem get?_cons (entry : String × α) (table : Table α) (name : String) :
    get? (entry :: table) name = if entry.1 = name then some entry.2 else get? table name := by
  by_cases same : entry.1 = name <;> simp [get?, same]

theorem get?_put (table : Table α) (name wanted : String) (value : α) :
    get? (put name value table) wanted =
      if name = wanted then some value else get? table wanted := by
  induction table with
  | nil => simp [put]
  | cons entry rest ih =>
    by_cases same : entry.1 = name
    · by_cases found : name = wanted <;> simp [put, same, found]
    · by_cases found : entry.1 = wanted
      · have differs : name ≠ wanted := fun eq => same (found.trans eq.symm)
        subst found
        simp [put, same, differs]
      · simp [put, same, found, ih]

theorem get?_erase (table : Table α) (name wanted : String) :
    get? (erase name table) wanted = if name = wanted then none else get? table wanted := by
  induction table with
  | nil => simp [erase]
  | cons entry rest ih =>
    unfold erase at ih ⊢
    by_cases same : entry.1 = name
    · by_cases found : name = wanted <;> simp_all
    · by_cases found : name = wanted
      · simp_all
      · simp_all

theorem has_eq_isSome_get? (table : Table α) (name : String) :
    has table name = (get? table name).isSome := by
  induction table with
  | nil => rfl
  | cons entry rest ih =>
    by_cases same : entry.1 = name <;> simp_all [has]

theorem get?_eq_none_iff {table : Table α} {name : String} :
    get? table name = none ↔ name ∉ table.names := by
  induction table with
  | nil => simp [names]
  | cons entry rest ih =>
    by_cases same : entry.1 = name <;> simp_all [names, eq_comm]

/-- A new name goes to the end; a known one stays where it is. -/
theorem names_put (table : Table α) (name : String) (value : α) :
    names (put name value table) =
      if name ∈ names table then names table else names table ++ [name] := by
  induction table with
  | nil => simp [put, names]
  | cons entry rest ih =>
    by_cases same : entry.1 = name
    · simp [put, names, same]
    · have differs : name ≠ entry.1 := fun eq => same eq.symm
      by_cases known : name ∈ names rest <;>
        simp_all [put, names]

theorem put_put_same (table : Table α) (name : String) (old new : α) :
    put name new (put name old table) = put name new table := by
  induction table with
  | nil => simp [put]
  | cons entry rest ih =>
    by_cases same : entry.1 = name
    · simp [put, same]
    · simp [put, same, ih]

/-- A name that is there keeps its place, so that it does not matter whether it is put first. -/
theorem put_comm_of_mem {table : Table α} {name other : String} (known : name ∈ table.names)
    (differs : name ≠ other) (value otherValue : α) :
    put name value (put other otherValue table) = put other otherValue (put name value table) := by
  induction table with
  | nil => simp [names] at known
  | cons entry rest ih =>
    by_cases isName : entry.1 = name
    · simp [put, isName, differs]
    · have further : name ∈ names rest := by
        rcases List.mem_cons.1 known with here | later
        · exact absurd here.symm isName
        · exact later
      by_cases isOther : entry.1 = other
      · simp [put, isOther, differs.symm]
      · simp [put, isName, isOther, ih further]

theorem mem_names_put (table : Table α) (name : String) (value : α) :
    name ∈ (put name value table).names := by
  rw [names_put]
  split
  next known => exact known
  · simp

theorem wellFormed_nil : WellFormed ([] : Table α) := List.nodup_nil

theorem WellFormed.put {table : Table α} (wellFormed : table.WellFormed) (name : String)
    (value : α) : (table.put name value).WellFormed := by
  unfold WellFormed
  rw [names_put]
  split
  · exact wellFormed
  next unknown =>
    refine List.nodup_append.2 ⟨wellFormed, by simp, ?_⟩
    rintro a known b new rfl
    rw [List.mem_singleton] at new
    exact unknown (new ▸ known)

theorem names_erase (table : Table α) (name : String) :
    names (erase name table) = table.names.filter (· != name) := by
  rw [names, erase, names, List.filter_map]
  rfl

theorem WellFormed.erase {table : Table α} (wellFormed : table.WellFormed) (name : String) :
    (table.erase name).WellFormed := by
  unfold WellFormed
  rw [names_erase]
  exact wellFormed.filter _

theorem put_of_not_mem {table : Table α} {name : String} (unknown : name ∉ table.names)
    (value : α) : put name value table = table ++ [(name, value)] := by
  induction table with
  | nil => rfl
  | cons entry rest ih =>
    simp only [names, List.map_cons, List.mem_cons, not_or] at unknown
    have differs : entry.1 ≠ name := fun eq => unknown.1 eq.symm
    simp [put, differs, ih unknown.2]

/-- A table is the table of its own entries. -/
theorem ofEntries_of_wellFormed {entries : Table α} (wellFormed : entries.WellFormed) :
    ofEntries entries = entries := by
  have gathers : ∀ table : Table α, (table ++ entries).WellFormed →
      table.putAll entries = table ++ entries := by
    induction entries with
    | nil => simp [putAll]
    | cons entry rest ih =>
      intro table distinct
      have unknown : entry.1 ∉ table.names := by
        intro known
        unfold WellFormed names at distinct
        rw [List.map_append, List.nodup_append] at distinct
        exact distinct.2.2 _ known _ List.mem_cons_self rfl
      have later := ih (List.nodup_cons.1 wellFormed).2 (table ++ [entry]) (by simpa using distinct)
      rw [putAll, List.foldl_cons, put_of_not_mem unknown]
      simpa [putAll] using later
  exact gathers [] wellFormed

section Entries

variable {β : Type} {entries : List (String × α)} {name : String} {value : α}

theorem mem_of_get? {table : Table α} (found : get? table name = some value) :
    (name, value) ∈ table := by
  induction table with
  | nil => cases found
  | cons entry rest ih =>
    rw [get?_cons] at found
    split at found
    next same =>
      cases found
      rw [← same]
      exact List.mem_cons_self
    · exact List.mem_cons_of_mem _ (ih found)

theorem get?_putAll (table : Table α) (entries : List (String × α)) (name : String) :
    get? (table.putAll entries) name = (get? (ofEntries entries) name).or (get? table name) := by
  induction entries generalizing table with
  | nil => rfl
  | cons entry rest ih =>
    have here := ih (put entry.1 entry.2 table)
    have alone := ih (put entry.1 entry.2 [])
    rw [get?_put] at here alone
    change get? (putAll (put entry.1 entry.2 table) rest) name =
      (get? (putAll (put entry.1 entry.2 []) rest) name).or (get? table name)
    rw [here, alone, Option.or_assoc]
    split <;> rfl

theorem get?_ofEntries_cons (entry : String × α) (rest : List (String × α)) (name : String) :
    get? (ofEntries (entry :: rest)) name =
      (get? (ofEntries rest) name).or (if entry.1 = name then some entry.2 else none) := by
  have put := get?_putAll (put entry.1 entry.2 []) rest name
  rw [get?_put] at put
  exact put

theorem mem_of_get?_ofEntries (found : get? (ofEntries entries) name = some value) :
    (name, value) ∈ entries := by
  induction entries with
  | nil => cases found
  | cons entry rest ih =>
    rw [get?_ofEntries_cons, Option.or_eq_some_iff] at found
    rcases found with later | ⟨-, here⟩
    · exact List.mem_cons_of_mem _ (ih later)
    · rw [Option.ite_none_right_eq_some] at here
      rcases here with ⟨rfl, isValue⟩
      cases isValue
      exact List.mem_cons_self

theorem get?_ofEntries_eq_none_iff :
    get? (ofEntries entries) name = none ↔ ∀ value, (name, value) ∉ entries := by
  induction entries with
  | nil => simp [ofEntries, putAll]
  | cons entry rest ih =>
    rw [get?_ofEntries_cons, Option.or_eq_none_iff, ih]
    rcases entry with ⟨name', value'⟩
    by_cases same : name' = name
    · subst same
      exact iff_of_false (by simp) fun absent => absent value' List.mem_cons_self
    · simp [same, Ne.symm same]

/-- If all entries of a name have the same value, then that is the value of the name. -/
theorem get?_ofEntries_eq_some_iff
    (single : ∀ value other, (name, value) ∈ entries → (name, other) ∈ entries → value = other) :
    get? (ofEntries entries) name = some value ↔ (name, value) ∈ entries := by
  refine ⟨mem_of_get?_ofEntries, fun isEntry => ?_⟩
  cases found : get? (ofEntries entries) name with
  | none => exact absurd isEntry (get?_ofEntries_eq_none_iff.1 found value)
  | some other => rw [single value other isEntry (mem_of_get?_ofEntries found)]

/-- Of several lists of entries, the last that has the name decides. -/
theorem get?_ofEntries_flatMap (items : List β) (entries : β → List (String × α)) (name : String) :
    get? (ofEntries (items.flatMap entries)) name =
      items.reverse.findSome? fun item => get? (ofEntries (entries item)) name := by
  induction items with
  | nil => rfl
  | cons item items ih =>
    have gathered : ofEntries (entries item ++ items.flatMap entries) =
        putAll (ofEntries (entries item)) (items.flatMap entries) :=
      List.foldl_append
    rw [List.flatMap_cons, gathered, get?_putAll, ih, List.reverse_cons, List.findSome?_append,
      List.findSome?_singleton]

theorem get?_ofEntries_flatMap_eq_some_iff (items : List β) (entries : β → List (String × α))
    (name : String) :
    get? (ofEntries (items.flatMap entries)) name = some value ↔
      ∃ before item after, items = before ++ item :: after ∧
        get? (ofEntries (entries item)) name = some value ∧
        ∀ later ∈ after, get? (ofEntries (entries later)) name = none := by
  rw [get?_ofEntries_flatMap, List.findSome?_eq_some_iff]
  constructor
  · rintro ⟨after, item, before, split, found, noLater⟩
    refine ⟨before.reverse, item, after.reverse, ?_, found, by simpa using noLater⟩
    rw [← List.reverse_reverse items, split]
    simp
  · rintro ⟨before, item, after, rfl, found, noLater⟩
    exact ⟨after.reverse, item, before.reverse, by simp, found, by simpa using noLater⟩

theorem wellFormed_ofEntries (entries : List (String × α)) : (ofEntries entries).WellFormed := by
  have grows : ∀ table : Table α, table.WellFormed → (table.putAll entries).WellFormed := by
    induction entries with
    | nil => exact fun _ wellFormed => wellFormed
    | cons entry rest ih => exact fun _ wellFormed => ih _ (wellFormed.put entry.1 entry.2)
  exact grows [] wellFormed_nil

end Entries

end Table

end SearchSql
