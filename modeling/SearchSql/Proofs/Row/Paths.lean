import SearchSql.Row.Bucket

/-!
# Rows of an aggregation and paths to its leaves

What the aggregations of a result say is here put as a tree: a level is a name with its buckets, a
bucket with nothing but one more level in it leads to that level, and every other bucket is a leaf.
A leaf is found under a path, the positions of the buckets that lead to it, and the rows of the
aggregations are those of the leaves in the order of their paths.

The proof runs along the recursion of `Bucket.rows`. What one more bucket at the front changes about
the leaves of a level is said by `leads_cons_iff`, and `Enumerates` carries the induction.
-/

namespace SearchSql.Bucket

/-- A level of buckets: its name and the buckets. -/
abbrev Level := String × List Json

/-- The value is an object with a list of buckets. -/
def HasBuckets (value : Json) (buckets : List Json) : Prop :=
  value.member? "buckets" = some (.array buckets)

/--
The level that an entry holds. An entry of an object is a member that does not describe it; under a
marker of nested documents, the first entry with buckets gives the level its name.
-/
inductive IsBucketed : String → Json → Level → Prop
  | direct {name : String} {value : Json} {buckets : List Json}
      (has : HasBuckets value buckets) : IsBucketed name value (name, buckets)
  | nested {name inner : String} {front back : List Char} {value held : Json}
      {before after : Record} {buckets : List Json}
      (hasNone : ∀ other, ¬ HasBuckets value other)
      (marked : name.toList = front ++ nestedMarker.toList ++ back)
      (isObject : value = .object (before ++ (inner, held) :: after))
      (isEntry : isDescription inner = false)
      (has : HasBuckets held buckets)
      (isFirst : ∀ entry ∈ before,
        isDescription entry.1 = true ∨ ∀ other, ¬ HasBuckets entry.2 other) :
      IsBucketed name value (inner, buckets)

/-- The bucket leads to a level: that level is the only entry of the bucket. -/
def IsInner (bucket : Record) (level : Level) : Prop :=
  ∃ name value, contents bucket = [(name, value)] ∧ IsBucketed name value level

/-- A leaf, with the names of the levels above it and the keys of the buckets on the way. -/
structure Leaf where
  levels : List (String × Json)
  bucket : Record

/-- The positions of the buckets that lead from a level to a leaf. -/
inductive Leads : Level → List Nat → Leaf → Prop
  | leaf {name : String} {buckets : List Json} {position : Nat} {bucket : Record}
      (here : buckets[position]? = some (.object bucket))
      (isLeaf : ∀ below, ¬ IsInner bucket below) :
      Leads (name, buckets) [position] ⟨[(name, key bucket)], bucket⟩
  | inner {name : String} {buckets : List Json} {position : Nat} {bucket : Record} {below : Level}
      {path : List Nat} {leaf : Leaf}
      (here : buckets[position]? = some (.object bucket))
      (isInner : IsInner bucket below)
      (further : Leads below path leaf) :
      Leads (name, buckets) (position :: path) ⟨(name, key bucket) :: leaf.levels, leaf.bucket⟩

/-- The columns that some entries fill, an entry without a metric none. -/
def metrics (entries : List (String × Json)) : List (String × Json) :=
  entries.filterMap fun entry => (metric? entry.2).map fun value => (columnName entry.1, value)

/-- The row of a leaf: the keys on the way to it, then its metrics. -/
def Leaf.row (leaf : Leaf) : Record :=
  Table.ofEntries <|
    leaf.levels.map (fun level => (columnName level.1, level.2)) ++ metrics (contents leaf.bucket)

/-- All leaves of a level under their paths, each once and in depth-first order. -/
structure Enumerates (found : List (List Nat × Leaf)) (level : Level) : Prop where
  ordered : found.Pairwise fun first second => List.Lex (· < ·) first.1 second.1
  complete : ∀ path leaf, (path, leaf) ∈ found ↔ Leads level path leaf

section Levels

variable {name : String} {value : Json} {buckets : List Json} {level : Level} {bucket : Record}

theorem bucketsOf?_eq_some_iff : bucketsOf? value = some buckets ↔ HasBuckets value buckets := by
  unfold bucketsOf? HasBuckets
  rw [Option.bind_eq_some_iff]
  constructor
  · rintro ⟨member, isMember, isArray⟩
    cases member with
    | array items => cases isArray; exact isMember
    | _ => cases isArray
  · intro has
    exact ⟨_, has, rfl⟩

theorem bucketsOf?_eq_none_iff :
    bucketsOf? value = none ↔ ∀ buckets, ¬ HasBuckets value buckets := by
  simp only [Option.eq_none_iff_forall_ne_some, ne_eq, bucketsOf?_eq_some_iff]

theorem innerLevel?_eq_some_iff (members : Record) :
    innerLevel? members = some level ↔
      ∃ before held after, members = before ++ (level.1, held) :: after ∧
        isDescription level.1 = false ∧ HasBuckets held level.2 ∧
        ∀ entry ∈ before, isDescription entry.1 = true ∨ ∀ other, ¬ HasBuckets entry.2 other := by
  induction members with
  | nil => simp [innerLevel?]
  | cons member rest ih =>
    rcases member with ⟨name, value⟩
    -- a member that is passed over is one more of those before the level
    have pass : (isDescription name = true ∨ ∀ other, ¬ HasBuckets value other) →
        (innerLevel? rest = some level ↔
          ∃ before held after, (name, value) :: rest = before ++ (level.1, held) :: after ∧
            isDescription level.1 = false ∧ HasBuckets held level.2 ∧
            ∀ entry ∈ before,
              isDescription entry.1 = true ∨ ∀ other, ¬ HasBuckets entry.2 other) := by
      intro passed
      rw [ih]
      constructor
      · rintro ⟨before, held, after, rfl, isEntry, has, isFirst⟩
        refine ⟨(name, value) :: before, held, after, rfl, isEntry, has, ?_⟩
        exact List.forall_mem_cons.2 ⟨passed, isFirst⟩
      · rintro ⟨before, held, after, split, isEntry, has, isFirst⟩
        cases before with
        | nil =>
          cases split
          rcases passed with described | hasNone
          · rw [isEntry] at described
            cases described
          · exact absurd has (hasNone level.2)
        | cons first before =>
          cases split
          exact ⟨before, held, after, rfl, isEntry, has, (List.forall_mem_cons.1 isFirst).2⟩
    rw [innerLevel?]
    split
    next described => exact pass (.inl described)
    next isEntry =>
      split
      next buckets isBuckets =>
        have has := bucketsOf?_eq_some_iff.1 isBuckets
        constructor
        · intro found
          cases found
          exact ⟨[], value, rest, rfl, by simpa using isEntry, has, by simp⟩
        · rintro ⟨before, held, after, split, -, hasLevel, isFirst⟩
          cases before with
          | nil =>
            cases split
            rw [← bucketsOf?_eq_some_iff, isBuckets] at hasLevel
            cases hasLevel
            rfl
          | cons first before =>
            cases split
            rcases (List.forall_mem_cons.1 isFirst).1 with described | hasNone
            · exact absurd described isEntry
            · exact absurd has (hasNone buckets)
      next isNone => exact pass (.inr (bucketsOf?_eq_none_iff.1 isNone))

theorem level?_eq_some_iff : level? name value = some level ↔ IsBucketed name value level := by
  unfold level?
  split
  next buckets isBuckets =>
    have has := bucketsOf?_eq_some_iff.1 isBuckets
    constructor
    · intro found
      cases found
      exact .direct has
    · intro bucketed
      cases bucketed with
      | direct hasLevel =>
        rw [← bucketsOf?_eq_some_iff, isBuckets] at hasLevel
        cases hasLevel
        rfl
      | nested hasNone => exact absurd has (hasNone buckets)
  next isNone =>
    have hasNone := bucketsOf?_eq_none_iff.1 isNone
    constructor
    · intro found
      split at found
      next marked =>
        rcases (Text.occursIn_iff _ _).1 marked with ⟨front, back, inName⟩
        rcases Option.bind_eq_some_iff.1 found with ⟨members, isRecord, inside⟩
        cases value with
        | object members' =>
          cases isRecord
          rcases (innerLevel?_eq_some_iff members).1 inside with
            ⟨before, held, after, rfl, isEntry, has, isFirst⟩
          exact .nested hasNone inName rfl isEntry has isFirst
        | _ => cases isRecord
      · cases found
    · intro bucketed
      cases bucketed with
      | direct has => exact absurd has (hasNone _)
      | nested _ inName isObject isEntry has isFirst =>
        rw [if_pos ((Text.occursIn_iff _ _).2 ⟨_, _, inName⟩), isObject]
        exact (innerLevel?_eq_some_iff _).2 ⟨_, _, _, rfl, isEntry, has, isFirst⟩

theorem only?_contents_eq_some_iff :
    only? (contents bucket) = some level ↔ IsInner bucket level := by
  unfold IsInner
  generalize contents bucket = entries
  constructor
  · intro found
    unfold only? at found
    split at found
    next name value => exact ⟨name, value, rfl, level?_eq_some_iff.1 found⟩
    · cases found
  · rintro ⟨name, value, rfl, bucketed⟩
    exact level?_eq_some_iff.2 bucketed

theorem rows_cons_leaf (column : String) (rest : List Json)
    (isLeaf : only? (contents bucket) = none) :
    rows column (.object bucket :: rest) =
      putMetrics [(column, key bucket)] (contents bucket) :: rows column rest := by
  rw [rows]
  split
  next level isInner => exact absurd (isInner.symm.trans isLeaf) (by simp)
  · rfl

end Levels

section Leaves

variable {name : String} {buckets : List Json} {found : List (List Nat × Leaf)}

/-- A path among the buckets behind the first one, as it is when the first one counts too. -/
def later : List Nat × Leaf → List Nat × Leaf
  | ([], leaf) => ([], leaf)
  | (position :: path, leaf) => ((position + 1) :: path, leaf)

/-- A path below the first bucket of a level. -/
def below (name : String) (bucket : Record) (entry : List Nat × Leaf) : List Nat × Leaf :=
  (0 :: entry.1, ⟨(name, key bucket) :: entry.2.levels, entry.2.bucket⟩)

theorem leads_ne_nil {level : Level} {path : List Nat} {leaf : Leaf}
    (leads : Leads level path leaf) : path ≠ [] := by
  cases leads <;> simp

/-- A leaf is below the first bucket of a level, or below one of the others. -/
theorem leads_cons_iff {first : Json} {path : List Nat} {leaf : Leaf} :
    Leads (name, first :: buckets) path leaf ↔
      (∃ bucket, first = .object bucket ∧ (∀ level, ¬ IsInner bucket level) ∧
        (path, leaf) = ([0], ⟨[(name, key bucket)], bucket⟩)) ∨
      (∃ bucket level entry, first = .object bucket ∧ IsInner bucket level ∧
        Leads level entry.1 entry.2 ∧ (path, leaf) = below name bucket entry) ∨
      ∃ entry, Leads (name, buckets) entry.1 entry.2 ∧ (path, leaf) = later entry := by
  constructor
  · intro leads
    cases leads with
    | @leaf _ _ position bucket here isLeaf =>
      cases position with
      | zero => exact .inl ⟨bucket, by simpa using here, isLeaf, rfl⟩
      | succ position =>
        exact .inr (.inr ⟨([position], _), .leaf (by simpa using here) isLeaf, rfl⟩)
    | @inner _ _ position bucket level path leaf here isInner further =>
      cases position with
      | zero =>
        exact .inr (.inl ⟨bucket, level, (path, leaf), by simpa using here, isInner, further, rfl⟩)
      | succ position =>
        exact .inr (.inr
          ⟨(position :: path, _), .inner (by simpa using here) isInner further, rfl⟩)
  · rintro (⟨bucket, rfl, isLeaf, eq⟩ | ⟨bucket, level, entry, rfl, isInner, further, eq⟩ |
      ⟨⟨path', leaf'⟩, leads, eq⟩)
    · cases eq
      exact .leaf rfl isLeaf
    · cases eq
      exact .inner rfl isInner further
    · cases leads with
      | leaf here isLeaf =>
        cases eq
        exact .leaf (by simpa using here) isLeaf
      | inner here isInner further =>
        cases eq
        exact .inner (by simpa using here) isInner further

namespace Enumerates

theorem nil : Enumerates [] (name, []) where
  ordered := .nil
  complete := by
    intro path leaf
    refine ⟨fun isMember => absurd isMember List.not_mem_nil, fun leads => ?_⟩
    cases leads with
    | leaf here => simp at here
    | inner here => simp at here

theorem ordered_later (leaves : Enumerates found (name, buckets)) :
    (found.map later).Pairwise fun first second => List.Lex (· < ·) first.1 second.1 := by
  rw [List.pairwise_map]
  refine leaves.ordered.imp_of_mem ?_
  rintro ⟨firstPath, first⟩ ⟨secondPath, second⟩ isFirst isSecond earlier
  have firstNonempty := leads_ne_nil ((leaves.complete _ _).1 isFirst)
  have secondNonempty := leads_ne_nil ((leaves.complete _ _).1 isSecond)
  cases earlier with
  | nil => exact absurd rfl firstNonempty
  | rel smaller => exact .rel (Nat.succ_lt_succ smaller)
  | cons further => exact .cons further

theorem one_le_of_mem_later (leaves : Enumerates found (name, buckets))
    {entry : List Nat × Leaf} (isMember : entry ∈ found.map later) :
    ∃ position path, entry.1 = (position + 1) :: path := by
  rcases List.mem_map.1 isMember with ⟨⟨path, leaf⟩, isFound, rfl⟩
  cases path with
  | nil => exact absurd rfl (leads_ne_nil ((leaves.complete _ _).1 isFound))
  | cons position path => exact ⟨position, path, rfl⟩

theorem mem_later_iff (leaves : Enumerates found (name, buckets)) {entry : List Nat × Leaf} :
    entry ∈ found.map later ↔
      ∃ other, Leads (name, buckets) other.1 other.2 ∧ entry = later other := by
  rw [List.mem_map]
  constructor
  · rintro ⟨other, isFound, rfl⟩
    exact ⟨other, (leaves.complete _ _).1 isFound, rfl⟩
  · rintro ⟨other, leads, rfl⟩
    exact ⟨other, (leaves.complete _ _).2 leads, rfl⟩

/-- What is no object has no leaf. -/
theorem skip {first : Json} (noObject : ∀ bucket, first ≠ .object bucket)
    (leaves : Enumerates found (name, buckets)) :
    Enumerates (found.map later) (name, first :: buckets) where
  ordered := leaves.ordered_later
  complete := by
    intro path leaf
    rw [leads_cons_iff, leaves.mem_later_iff]
    constructor
    · exact fun isLater => .inr (.inr isLater)
    · rintro (⟨bucket, isObject, -⟩ | ⟨bucket, level, entry, isObject, -⟩ | isLater)
      · exact absurd isObject (noObject bucket)
      · exact absurd isObject (noObject bucket)
      · exact isLater

theorem leaf {bucket : Record} (isLeaf : ∀ level, ¬ IsInner bucket level)
    (leaves : Enumerates found (name, buckets)) :
    Enumerates (([0], ⟨[(name, key bucket)], bucket⟩) :: found.map later)
      (name, .object bucket :: buckets) where
  ordered := by
    refine List.pairwise_cons.2 ⟨?_, leaves.ordered_later⟩
    intro entry isMember
    rcases leaves.one_le_of_mem_later isMember with ⟨position, path, isPath⟩
    rw [isPath]
    exact .rel (Nat.succ_pos position)
  complete := by
    intro path leaf
    rw [leads_cons_iff, List.mem_cons, leaves.mem_later_iff]
    constructor
    · rintro (isFirst | isLater)
      · exact .inl ⟨bucket, rfl, isLeaf, isFirst⟩
      · exact .inr (.inr isLater)
    · rintro (⟨_, isObject, -, isFirst⟩ | ⟨_, level, entry, isObject, isInner, -⟩ | isLater)
      · cases isObject
        exact .inl isFirst
      · cases isObject
        exact absurd isInner (isLeaf level)
      · exact .inr isLater

theorem inner {bucket : Record} {level : Level} {inside : List (List Nat × Leaf)}
    (isInner : IsInner bucket level) (leavesInside : Enumerates inside level)
    (leaves : Enumerates found (name, buckets)) :
    Enumerates (inside.map (below name bucket) ++ found.map later)
      (name, .object bucket :: buckets) where
  ordered := by
    refine List.pairwise_append.2 ⟨?_, leaves.ordered_later, ?_⟩
    · exact List.pairwise_map.2 (leavesInside.ordered.imp fun earlier => .cons earlier)
    · intro entry isInside entry' isLater
      rcases List.mem_map.1 isInside with ⟨other, -, rfl⟩
      rcases leaves.one_le_of_mem_later isLater with ⟨position, path, isPath⟩
      rw [isPath]
      exact .rel (Nat.succ_pos position)
  complete := by
    intro path leaf
    rw [leads_cons_iff, List.mem_append, leaves.mem_later_iff, List.mem_map]
    constructor
    · rintro (⟨entry, isInside, isBelow⟩ | isLater)
      · refine .inr (.inl ⟨bucket, level, entry, rfl, isInner, ?_, isBelow.symm⟩)
        exact (leavesInside.complete _ _).1 isInside
      · exact .inr (.inr isLater)
    · rintro (⟨_, isObject, isLeaf, -⟩ | ⟨_, level', entry, isObject, isInner', leads, isBelow⟩ |
        isLater)
      · cases isObject
        exact absurd isInner (isLeaf level)
      · cases isObject
        -- a bucket leads to one level only
        have sameLevel : level' = level := by
          rw [← only?_contents_eq_some_iff] at isInner isInner'
          exact Option.some.inj (isInner'.symm.trans isInner)
        subst sameLevel
        exact .inl ⟨entry, (leavesInside.complete _ _).2 leads, isBelow.symm⟩
      · exact .inr isLater

end Enumerates

end Leaves

end SearchSql.Bucket
