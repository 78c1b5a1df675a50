import SearchSql.Mapping.Source
import SearchSql.Proofs.Row.Cutting
import Mathlib.Data.Set.Card

/-!
# What a mapping response says about a path

A response is a list of trees of properties, which `BodyTrees` finds in it: one for each index in
the layout of today, one for each type of an index in the older one. A tree tells the type of a path
if its properties lead along the path to a definition that has one (`Tells`). The mapping of the
response has the type that the last of the trees tells.

A tree is read as a list of entries by a recursion that carries the path of the object it is in, so
the induction is on that recursion, with the names from there on as what is still to be followed.
That entries and paths correspond needs names without dots; that a tree has one type to tell for a
path needs every name to be once in its object.
-/

namespace SearchSql

namespace Path

theorem splitChars_append {separator : Char} {part : List Char} (absent : separator ∉ part)
    (rest : List Char) :
    Text.splitChars separator (part ++ separator :: rest) =
      part :: Text.splitChars separator rest := by
  induction part with
  | nil => simp [Text.splitChars]
  | cons c part ih =>
    rw [List.mem_cons, not_or] at absent
    rw [List.cons_append, Text.splitChars, if_neg (Ne.symm absent.1), ih absent.2]

/-- Names without dots are the segments of the path that they make. -/
theorem segments_intercalate {names : List String} (nonempty : names ≠ [])
    (plain : ∀ name ∈ names, isDotted name = false) : segments (".".intercalate names) = names := by
  induction names with
  | nil => exact absurd rfl nonempty
  | cons name names ih =>
    rcases List.forall_mem_cons.1 plain with ⟨here, later⟩
    cases names with
    | nil => rw [String.intercalate_singleton, segments_of_plain (by simp [here])]
    | cons next names =>
      have noDot : '.' ∉ name.toList := by
        simpa [isDotted] using here
      have rest := ih (List.cons_ne_nil _ _) later
      unfold segments Text.split at rest ⊢
      have isDot : ".".toList = ['.'] := rfl
      rw [String.intercalate_cons_cons, String.toList_append, String.toList_append, isDot,
        List.append_assoc, List.singleton_append, splitChars_append noDot, List.map_cons, rest,
        String.ofList_toList]

end Path

namespace Mapping

/-! ## Trees of properties -/

/-- Names that lead to a definition, each inside the object of the one before. -/
inductive Leads : Record → List String → Json → Prop
  | here {properties : Record} {name : String} {definition : Json}
      (found : Table.get? properties name = some definition) : Leads properties [name] definition
  | inside {properties inner : Record} {name : String} {names : List String}
      {definition target : Json} (found : Table.get? properties name = some definition)
      (holds : definition.member? "properties" = some (.object inner))
      (leads : Leads inner names target) : Leads properties (name :: names) target

/-- A definition has the type that it names; without one, it is an object if it has properties. -/
inductive HasFieldType : Json → FieldType → Prop
  | named {definition : Json} {name : String}
      (isNamed : definition.member? "type" = some (.string name)) :
      HasFieldType definition (FieldType.ofName name)
  | object {definition : Json} {properties : Record}
      (unnamed : ∀ name, definition.member? "type" ≠ some (.string name))
      (holds : definition.member? "properties" = some (.object properties)) :
      HasFieldType definition .object

def Tells (properties : Record) (path : String) (type : FieldType) : Prop :=
  ∃ definition, Leads properties (Path.segments path) definition ∧ HasFieldType definition type

/--
The properties of an index: those of the index itself, or else those of each of its types, in order.
-/
inductive IndexTrees : Json → List Record → Prop
  | single {index : Json} {mappings properties : Record}
      (isMappings : index.member? "mappings" = some (.object mappings))
      (isTree : Table.get? mappings "properties" = some (.object properties)) :
      IndexTrees index [properties]
  | typed {index : Json} {mappings : Record}
      (isMappings : index.member? "mappings" = some (.object mappings))
      (noTree : ∀ properties, Table.get? mappings "properties" ≠ some (.object properties)) :
      IndexTrees index
        (mappings.filterMap fun type => (type.2.member? "properties").bind Json.asRecord?)
  | none {index : Json}
      (noMappings : ∀ mappings, index.member? "mappings" ≠ some (.object mappings)) :
      IndexTrees index []

/-- The trees of all indices, in order. -/
inductive BodyTrees : Json → List Record → Prop
  | indices {members : Record} {trees : List (List Record)}
      (each : List.Forall₂ (fun index trees => IndexTrees index.2 trees) members trees) :
      BodyTrees (.object members) trees.flatten
  | none {body : Json} (noIndices : ∀ members, body ≠ .object members) : BodyTrees body []

/-- Every field has a name that is once in its object, not empty and without dots. -/
inductive PlainTree : Record → Prop
  | intro {properties : Record} (wellFormed : Table.WellFormed properties)
      (plain : ∀ name ∈ Table.names properties, name ≠ "" ∧ Path.isDotted name = false)
      (inner : ∀ field ∈ properties, ∀ inner,
        field.2.member? "properties" = some (.object inner) → PlainTree inner) :
      PlainTree properties

variable {properties inner : Record} {definition definition' target : Json} {name path : String}
  {names : List String} {type type' : FieldType}

theorem Leads.unique (leads : Leads properties names definition)
    (leads' : Leads properties names definition') : definition = definition' := by
  induction leads with
  | here found =>
    cases leads' with
    | here found' => exact Option.some.inj (found.symm.trans found')
    | inside _ _ leads => cases leads
  | inside found holds leads ih =>
    cases leads' with
    | here _ => cases leads
    | inside found' holds' leads' =>
      cases Option.some.inj (found.symm.trans found')
      cases Option.some.inj (holds.symm.trans holds')
      exact ih leads'

theorem HasFieldType.unique (hasType : HasFieldType definition type)
    (hasType' : HasFieldType definition type') : type = type' := by
  cases hasType with
  | named isNamed =>
    cases hasType' with
    | named isNamed' =>
      cases Option.some.inj (isNamed.symm.trans isNamed')
      rfl
    | object unnamed _ => exact absurd isNamed (unnamed _)
  | object unnamed _ =>
    cases hasType' with
    | named isNamed => exact absurd isNamed (unnamed _)
    | object _ _ => rfl

theorem Tells.unique (tells : Tells properties path type) (tells' : Tells properties path type') :
    type = type' := by
  rcases tells with ⟨definition, leads, hasType⟩
  rcases tells' with ⟨definition', leads', hasType'⟩
  cases leads.unique leads'
  exact hasType.unique hasType'

theorem propertiesOf?_eq_some_iff :
    propertiesOf? definition = some properties ↔
      definition.member? "properties" = some (.object properties) :=
  Json.bind_asRecord?_eq_some_iff

theorem typeName?_eq_some_iff :
    (definition.member? "type").bind Json.asText? = some name ↔
      definition.member? "type" = some (.string name) := by
  simp [Option.bind_eq_some_iff, Json.asText?_eq_some_iff]

/-! ## The entries of a tree -/

theorem hasFieldType_iff_of_properties
    (holds : definition.member? "properties" = some (.object inner)) :
    HasFieldType definition type ↔ type =
      (((definition.member? "type").bind Json.asText?).map FieldType.ofName).getD .object := by
  cases found : (definition.member? "type").bind Json.asText? with
  | none =>
    have unnamed : ∀ name, definition.member? "type" ≠ some (.string name) := by
      intro name isNamed
      rw [typeName?_eq_some_iff.2 isNamed] at found
      cases found
    constructor
    · intro hasType
      exact hasType.unique (.object unnamed holds)
    · rintro rfl
      exact .object unnamed holds
  | some name =>
    have hasName : HasFieldType definition (FieldType.ofName name) :=
      .named (typeName?_eq_some_iff.1 found)
    constructor
    · intro hasType
      exact hasType.unique hasName
    · rintro rfl
      exact hasName

theorem hasFieldType_iff_of_plain (noProperties : propertiesOf? definition = none) :
    HasFieldType definition type ↔
      ∃ name, (definition.member? "type").bind Json.asText? = some name ∧
        FieldType.ofName name = type := by
  constructor
  · intro hasType
    cases hasType with
    | named isNamed => exact ⟨_, typeName?_eq_some_iff.2 isNamed, rfl⟩
    | object _ holds =>
      rw [propertiesOf?_eq_some_iff.2 holds] at noProperties
      cases noProperties
  · rintro ⟨name, isNamed, rfl⟩
    exact .named (typeName?_eq_some_iff.1 isNamed)

/-- An entry is that of the first field, one of the fields inside it, or one of the others. -/
theorem mem_propertyEntries_cons (path place : String) (rest : Record) :
    (place, type) ∈ propertyEntries path ((name, definition) :: rest) ↔
      (place = joinPath path name ∧ HasFieldType definition type) ∨
      (∃ inner, definition.member? "properties" = some (.object inner) ∧
        (place, type) ∈ propertyEntries (joinPath path name) inner) ∨
      (place, type) ∈ propertyEntries path rest := by
  rw [propertyEntries]
  split
  next inner found =>
    have holds := propertiesOf?_eq_some_iff.1 found
    have isInner : ∀ other,
        definition.member? "properties" = some (.object other) ↔ other = inner := by
      intro other
      rw [holds]
      simp [eq_comm]
    simp [hasFieldType_iff_of_properties holds, isInner]
  next noProperties =>
    have noInner : ∀ inner, definition.member? "properties" ≠ some (.object inner) := by
      intro inner holds
      rw [propertiesOf?_eq_some_iff.2 holds] at noProperties
      cases noProperties
    cases found : (definition.member? "type").bind Json.asText? with
    | none => simp [hasFieldType_iff_of_plain noProperties, noInner, found]
    | some named => simp [hasFieldType_iff_of_plain noProperties, noInner, found, eq_comm]

theorem leads_cons_iff {rest : Record} (new : name ∉ Table.names rest) :
    Leads ((name, definition) :: rest) names target ↔
      (names = [name] ∧ target = definition) ∨
      (∃ inner more, names = name :: more ∧
        definition.member? "properties" = some (.object inner) ∧ Leads inner more target) ∨
      Leads rest names target := by
  have other : ∀ {name' : String} {value : Json}, Table.get? rest name' = some value →
      Table.get? ((name, definition) :: rest) name' = some value := by
    intro name' value found
    have differs : name ≠ name' := by
      rintro rfl
      rw [Table.get?_eq_none_iff.2 new] at found
      cases found
    rw [Table.get?_cons, if_neg differs, found]
  constructor
  · intro leads
    cases leads with
    | here found =>
      rw [Table.get?_cons] at found
      split at found
      next same =>
        cases found
        exact .inl ⟨by rw [← same], rfl⟩
      · exact .inr (.inr (.here found))
    | inside found holds leads =>
      rw [Table.get?_cons] at found
      split at found
      next same =>
        cases found
        exact .inr (.inl ⟨_, _, by rw [← same], holds, leads⟩)
      · exact .inr (.inr (.inside found holds leads))
  · rintro (⟨rfl, rfl⟩ | ⟨inner, more, rfl, holds, leads⟩ | leads)
    · exact .here (by simp)
    · exact .inside (by simp) holds leads
    · cases leads with
      | here found => exact .here (other found)
      | inside found holds leads => exact .inside (other found) holds leads

theorem plainTree_nil : PlainTree [] :=
  ⟨Table.wellFormed_nil, List.forall_mem_nil _, List.forall_mem_nil _⟩

theorem plainTree_cons_iff {rest : Record} :
    PlainTree ((name, definition) :: rest) ↔
      (name ∉ Table.names rest ∧ name ≠ "" ∧ Path.isDotted name = false) ∧
      (∀ inner, definition.member? "properties" = some (.object inner) → PlainTree inner) ∧
      PlainTree rest := by
  constructor
  · rintro ⟨wellFormed, plain, inner⟩
    rcases List.nodup_cons.1 wellFormed with ⟨new, wellFormed⟩
    rcases List.forall_mem_cons.1 plain with ⟨plainHere, plainLater⟩
    rcases List.forall_mem_cons.1 inner with ⟨innerHere, innerLater⟩
    exact ⟨⟨new, plainHere⟩, innerHere, ⟨wellFormed, plainLater, innerLater⟩⟩
  · rintro ⟨⟨new, plainHere⟩, innerHere, ⟨wellFormed, plainLater, innerLater⟩⟩
    exact ⟨List.nodup_cons.2 ⟨new, wellFormed⟩, List.forall_mem_cons.2 ⟨plainHere, plainLater⟩,
      List.forall_mem_cons.2 ⟨innerHere, innerLater⟩⟩

/-- The entries of a tree are the definitions that it leads to and that have a type. -/
theorem mem_propertyEntries_iff (plain : PlainTree properties) (path place : String) :
    (place, type) ∈ propertyEntries path properties ↔
      ∃ names definition, Leads properties names definition ∧ HasFieldType definition type ∧
        place = names.foldl joinPath path := by
  induction path, properties using propertyEntries.induct with
  | case1 path =>
    have noEntry : (place, type) ∉ propertyEntries path [] := by
      rw [propertyEntries]
      exact List.not_mem_nil
    refine iff_of_false noEntry ?_
    rintro ⟨names, definition, ⟨found⟩ | ⟨found, -, -⟩, -, -⟩ <;> cases found
  | case2 path name definition rest here ihInner ihRest =>
    rcases plainTree_cons_iff.1 plain with ⟨⟨new, -⟩, plainInner, plainRest⟩
    rw [mem_propertyEntries_cons, ihRest plainRest]
    constructor
    · rintro (⟨rfl, hasType⟩ | ⟨inner, holds, isEntry⟩ | ⟨names, target, leads, hasType, isPlace⟩)
      · exact ⟨[name], definition, (leads_cons_iff new).2 (.inl ⟨rfl, rfl⟩), hasType, rfl⟩
      · have found := propertiesOf?_eq_some_iff.2 holds
        rcases (ihInner inner found (plainInner inner holds)).1 isEntry
          with ⟨names, target, leads, hasType, isPlace⟩
        have leadsOn := (leads_cons_iff new).2 (.inr (.inl ⟨inner, names, rfl, holds, leads⟩))
        exact ⟨name :: names, target, leadsOn, hasType, isPlace⟩
      · exact ⟨names, target, (leads_cons_iff new).2 (.inr (.inr leads)), hasType, isPlace⟩
    · rintro ⟨names, target, leads, hasType, rfl⟩
      rcases (leads_cons_iff new).1 leads
        with ⟨rfl, rfl⟩ | ⟨inner, more, rfl, holds, leads⟩ | leads
      · exact .inl ⟨rfl, hasType⟩
      · have found := propertiesOf?_eq_some_iff.2 holds
        exact .inr (.inl ⟨inner, holds, (ihInner inner found (plainInner inner holds)).2
          ⟨more, target, leads, hasType, rfl⟩⟩)
      · exact .inr (.inr ⟨names, target, leads, hasType, rfl⟩)

/-! ## Paths of a tree -/

theorem joinPath_of_ne (nonempty : path ≠ "") (name : String) :
    joinPath path name = path ++ "." ++ name := by
  rw [joinPath, if_neg]
  simpa using nonempty

theorem foldl_joinPath_of_ne (nonempty : path ≠ "") (names : List String) :
    names.foldl joinPath path = ".".intercalate (path :: names) := by
  induction names generalizing path with
  | nil => rw [List.foldl_nil, String.intercalate_singleton]
  | cons name names ih =>
    have longer : path ++ "." ++ name ≠ "" := by simp
    rw [List.foldl_cons, joinPath_of_ne nonempty, ih longer, String.intercalate_cons_cons]
    cases names with
    | nil => simp [String.intercalate_singleton]
    | cons next names => simp [String.intercalate_cons_cons, String.append_assoc]

theorem foldl_joinPath (nonempty : ∀ name ∈ names, name ≠ "") :
    names.foldl joinPath "" = ".".intercalate names := by
  cases names with
  | nil => rfl
  | cons name names =>
    have isName : joinPath "" name = name := rfl
    rw [List.foldl_cons, isName]
    exact foldl_joinPath_of_ne (nonempty name List.mem_cons_self) names

theorem Leads.plain (leads : Leads properties names definition) (plain : PlainTree properties) :
    names ≠ [] ∧ ∀ name ∈ names, name ≠ "" ∧ Path.isDotted name = false := by
  have known : ∀ {properties : Record} {name : String} {definition : Json},
      Table.get? properties name = some definition → name ∈ Table.names properties :=
    fun found => List.mem_map.2 ⟨_, Table.mem_of_get? found, rfl⟩
  induction leads with
  | here found =>
    rcases plain with ⟨-, plainNames, -⟩
    exact ⟨List.cons_ne_nil _ _, by simpa using plainNames _ (known found)⟩
  | inside found holds _ ih =>
    rcases plain with ⟨-, plainNames, plainInner⟩
    have later := ih (plainInner (_, _) (Table.mem_of_get? found) _ holds)
    exact ⟨List.cons_ne_nil _ _, List.forall_mem_cons.2 ⟨plainNames _ (known found), later.2⟩⟩

/-- A tree has an entry for each path whose type it tells. -/
theorem mem_propertyEntries_iff_tells (plain : PlainTree properties) :
    (path, type) ∈ propertyEntries "" properties ↔ Tells properties path type := by
  rw [mem_propertyEntries_iff plain]
  constructor
  · rintro ⟨names, definition, leads, hasType, rfl⟩
    rcases leads.plain plain with ⟨nonempty, plainNames⟩
    refine ⟨definition, ?_, hasType⟩
    rw [foldl_joinPath fun name isName => (plainNames name isName).1,
      Path.segments_intercalate nonempty fun name isName => (plainNames name isName).2]
    exact leads
  · rintro ⟨definition, leads, hasType⟩
    refine ⟨_, definition, leads, hasType, ?_⟩
    rw [foldl_joinPath fun name isName => ((leads.plain plain).2 name isName).1]
    exact (Text.intercalate_split path).symm

theorem get?_propertyEntries (plain : PlainTree properties) :
    Table.get? (Table.ofEntries (propertyEntries "" properties)) path = some type ↔
      Tells properties path type := by
  rw [Table.get?_ofEntries_eq_some_iff, mem_propertyEntries_iff_tells plain]
  intro type type' isEntry isEntry'
  rw [mem_propertyEntries_iff_tells plain] at isEntry isEntry'
  exact isEntry.unique isEntry'

theorem get?_propertyEntries_eq_none_iff (plain : PlainTree properties) :
    Table.get? (Table.ofEntries (propertyEntries "" properties)) path = none ↔
      ∀ type, ¬Tells properties path type := by
  simp only [Option.eq_none_iff_forall_ne_some, ne_eq, get?_propertyEntries plain]

/-! ## The trees of a response -/

theorem indexTrees_iff {index : Json} {trees : List Record} :
    IndexTrees index trees ↔ trees = propertyTrees index := by
  constructor
  · intro isTrees
    unfold propertyTrees
    cases isTrees with
    | single isMappings isTree =>
      simp only [Json.bind_asRecord?_eq_some_iff.2 isMappings,
        Json.bind_asRecord?_eq_some_iff.2 isTree]
    | typed isMappings noTree =>
      simp only [Json.bind_asRecord?_eq_some_iff.2 isMappings,
        Json.bind_asRecord?_eq_none_iff.2 noTree]
      rfl
    | none noMappings => simp only [Json.bind_asRecord?_eq_none_iff.2 noMappings]
  · rintro rfl
    unfold propertyTrees
    split
    next noMappings => exact .none (Json.bind_asRecord?_eq_none_iff.1 noMappings)
    next mappings isMappings =>
      have isMember := Json.bind_asRecord?_eq_some_iff.1 isMappings
      split
      next properties isTree => exact .single isMember (Json.bind_asRecord?_eq_some_iff.1 isTree)
      next noTree => exact .typed isMember (Json.bind_asRecord?_eq_none_iff.1 noTree)

theorem bodyTrees_iff {body : Json} {trees : List Record} :
    BodyTrees body trees ↔
      trees = ((body.asRecord?.getD []).map (·.2)).flatMap propertyTrees := by
  have gathered : ∀ members : Record, (members.map fun index => propertyTrees index.2).flatten =
      (((Json.object members).asRecord?.getD []).map (·.2)).flatMap propertyTrees := by
    intro members
    rw [List.flatMap_def, List.map_map]
    rfl
  constructor
  · intro isTrees
    cases isTrees with
    | @indices members trees each =>
      have areTrees : List.Forall₂ Eq (members.map fun index => propertyTrees index.2) trees :=
        List.forall₂_map_left_iff.2 (each.imp fun _ _ isTrees => (indexTrees_iff.1 isTrees).symm)
      rw [List.forall₂_eq_eq_eq] at areTrees
      rw [← areTrees, gathered]
    | none noIndices =>
      cases body with
      | object members => exact absurd rfl (noIndices members)
      | _ => rfl
  · rintro rfl
    cases body with
    | object members =>
      rw [← gathered]
      refine .indices (List.forall₂_map_right_iff.2 (List.forall₂_same.2 ?_))
      exact fun index _ => indexTrees_iff.2 rfl
    | _ => exact .none (by simp)

/-! ## The mapping of a response -/

theorem fieldType?_eq_some_iff {mapping : Mapping} {trees : List Record}
    (isMapping : mapping = Table.ofEntries (trees.flatMap (propertyEntries "")))
    (plain : ∀ tree ∈ trees, PlainTree tree) :
    mapping.fieldType? path = some type ↔
      ∃ before tree after, trees = before ++ tree :: after ∧ Tells tree path type ∧
        ∀ later ∈ after, ∀ other, ¬Tells later path other := by
  rw [fieldType?, isMapping, Table.get?_ofEntries_flatMap_eq_some_iff]
  refine exists_congr fun before => exists_congr fun tree => exists_congr fun after => ?_
  refine and_congr_right ?_
  rintro rfl
  refine and_congr (get?_propertyEntries (plain tree (by simp))) ?_
  refine forall₂_congr fun later isLater => ?_
  exact get?_propertyEntries_eq_none_iff (plain later (by simp [isLater]))

theorem fieldType?_eq_none_iff {mapping : Mapping} {trees : List Record}
    (isMapping : mapping = Table.ofEntries (trees.flatMap (propertyEntries "")))
    (plain : ∀ tree ∈ trees, PlainTree tree) (path : String) :
    mapping.fieldType? path = none ↔ ∀ tree ∈ trees, ∀ type, ¬Tells tree path type := by
  rw [fieldType?, isMapping, Table.get?_ofEntries_flatMap, List.findSome?_eq_none_iff]
  simp only [List.mem_reverse]
  exact forall₂_congr fun tree isTree => get?_propertyEntries_eq_none_iff (plain tree isTree)

/-- All fields of the trees of a response have plain names. -/
def PlainFields (body : Json) : Prop :=
  ∀ trees, BodyTrees body trees → ∀ tree ∈ trees, PlainTree tree

/--
The type of a path is the one that the last of the trees tells; a path that no tree tells of has
none. The mapping has as many fields as there are paths that a tree tells of.
-/
theorem fieldType?_ofResponse {body : Json} (plain : PlainFields body) :
    ∃ trees, (∀ other, BodyTrees body other ↔ other = trees) ∧
      (∀ path type, (ofResponse body).fieldType? path = some type ↔
        ∃ before tree after, trees = before ++ tree :: after ∧ Tells tree path type ∧
          ∀ later ∈ after, ∀ other, ¬Tells later path other) ∧
      (∀ path, (ofResponse body).fieldType? path = none ↔
        ∀ tree ∈ trees, ∀ type, ¬Tells tree path type) ∧
      (ofResponse body).length = {path | ∃ tree ∈ trees, ∃ type, Tells tree path type}.ncard := by
  let trees := ((body.asRecord?.getD []).map (·.2)).flatMap propertyTrees
  have isMapping : ofResponse body = Table.ofEntries (trees.flatMap (propertyEntries "")) := rfl
  have plainTree := plain trees (bodyTrees_iff.2 rfl)
  have noneTold := fieldType?_eq_none_iff isMapping plainTree
  refine ⟨trees, fun other => bodyTrees_iff, ?_, noneTold, ?_⟩
  · intro path type
    exact fieldType?_eq_some_iff isMapping plainTree
  · have wellFormed : (ofResponse body).WellFormed := by
      rw [isMapping]
      exact Table.wellFormed_ofEntries _
    have isPaths : {path | ∃ tree ∈ trees, ∃ type, Tells tree path type} =
        (Table.names (ofResponse body)).toFinset := by
      ext path
      have told := not_congr (noneTold path)
      rw [fieldType?, Table.get?_eq_none_iff, not_not] at told
      rw [List.coe_toFinset]
      simp only [Set.mem_ofPred_eq, told]
      push Not
      rfl
    rw [isPaths, Set.ncard_coe_finset, List.toFinset_card_of_nodup wellFormed, Table.names,
      List.length_map]

def guests : Record :=
  [("name", .object [("type", .string "text"),
      ("properties", .object [("raw", .object [("type", .string "keyword")])])]),
    ("home", .object [("type", .bool true),
      ("properties", .object [("city", .object [("type", .string "text")])])])]

def rooms : Record :=
  [("name", .object [("type", .string "keyword")]), ("note", .object [("index", .bool false)])]

/-- An index of today beside an older one, whose type has one of the names again. -/
theorem fieldType?_of_guestsAndRooms :
    let typeless : Json := .object [("mappings", .object [("properties", .object guests)])]
    let typed : Json := .object [("mappings", .object [
      ("key", .object [("dynamic", .bool false)]),
      ("room", .object [("properties", .object rooms)])])]
    let body : Json := .object [("guests", typeless), ("rooms", typed)]
    PlainFields body ∧ (ofResponse body).fieldType? "name" = some .keyword ∧
      (ofResponse body).fieldType? "home" = some .object ∧
      (ofResponse body).fieldType? "home.city" = some .text ∧
      (ofResponse body).fieldType? "note" = none := by
  intro typeless typed body
  have isTyped : IndexTrees typed [rooms] := by
    have isIndex : IndexTrees typed (List.filterMap _ _) := .typed rfl (by rintro _ ⟨⟩)
    exact isIndex
  have isTrees : BodyTrees body [guests, rooms] := by
    have each : List.Forall₂ (fun (index : String × Json) trees => IndexTrees index.2 trees)
        [("guests", typeless), ("rooms", typed)] [[guests], [rooms]] :=
      .cons (.single rfl rfl) (.cons isTyped .nil)
    exact .indices each
  have plainGuests : PlainTree guests := by
    simp [guests, plainTree_cons_iff, plainTree_nil, Table.names, Table.get?_cons, Json.member?,
      Json.asRecord?, Path.isDotted]
  have plainRooms : PlainTree rooms := by
    simp [rooms, plainTree_cons_iff, plainTree_nil, Table.names, Table.get?_cons, Json.member?,
      Json.asRecord?, Path.isDotted]
  have plain : PlainFields body := by
    intro trees isTrees'
    rw [bodyTrees_iff.1 isTrees', ← bodyTrees_iff.1 isTrees]
    simp [plainGuests, plainRooms]
  rcases fieldType?_ofResponse plain with ⟨trees, isOnly, isSome, isNone, -⟩
  cases (isOnly _).1 isTrees
  have noHome : ∀ path names, Path.segments path = "home" :: names →
      ∀ later ∈ [rooms], ∀ type, ¬Tells later path type := by
    rintro path names isPath later isRooms type ⟨definition, leads, -⟩
    cases List.mem_singleton.1 isRooms
    rw [isPath] at leads
    rcases leads with found | ⟨found, -, -⟩ <;> cases found
  refine ⟨plain, ?_, ?_, ?_, ?_⟩
  · have tells : Tells rooms "name" (.ofName "keyword") := ⟨_, .here rfl, .named rfl⟩
    exact (isSome _ _).2 ⟨[guests], rooms, [], rfl, tells, List.forall_mem_nil _⟩
  · have tells : Tells guests "home" .object := ⟨_, .here rfl, .object (by rintro _ ⟨⟩) rfl⟩
    exact (isSome _ _).2 ⟨[], guests, [rooms], rfl, tells, noHome _ [] rfl⟩
  · have tells : Tells guests "home.city" (.ofName "text") :=
      ⟨_, .inside rfl rfl (.here rfl), .named rfl⟩
    exact (isSome _ _).2 ⟨[], guests, [rooms], rfl, tells, noHome _ ["city"] rfl⟩
  · have isPath : Path.segments "note" = ["note"] := rfl
    refine (isNone _).2 fun tree isTree type => ?_
    rintro ⟨definition, leads, hasType⟩
    rw [isPath] at leads
    simp only [List.mem_cons, List.not_mem_nil, or_false] at isTree
    rcases isTree with rfl | rfl
    · rcases leads with found | ⟨found, -, -⟩ <;> cases found
    · rcases leads with found | ⟨-, -, leads⟩
      · cases found
        rcases hasType with isNamed | ⟨-, holds⟩
        · cases isNamed
        · cases holds
      · cases leads

end Mapping

end SearchSql
