import SearchSql.Proofs.Query.Columns
import SearchSql.Proofs.Row.ColumnName

/-!
# Columns with and without keyword fields

Preparing a query puts `.keyword` behind fields, and the name of a column drops it again. For a field
this is seen at once. For a call the endings stand inside the written arguments, but each of them
stands at the end of a word, since a comma or the closing parenthesis follows. The marks of a call,
that is its endings and whether it is about a grid, are therefore those of its name and of its
arguments one by one.
-/

namespace SearchSql

namespace ColumnName

/-- Whether a text is about a grid. -/
def holdsGrid (text : List Char) : Bool := Text.occursIn "geohash".toList (text.map Char.toLower)

/-- A character that is no letter of the word for a grid keeps two texts apart. -/
theorem holdsGrid_append {c : Char} (absent : c.toLower ∉ "geohash".toList)
    (text rest : List Char) : holdsGrid (text ++ c :: rest) = (holdsGrid text || holdsGrid rest) := by
  rw [holdsGrid, List.map_append, List.map_cons, Text.occursIn_append_of_not_mem absent]
  rfl

theorem withoutMarkers_of_unmarked {text : List Char}
    (unmarked : ¬nestedMarker.toList <:+ text) : withoutMarkers text = text := by
  have kept : dropMarkers text.reverse = text.reverse := by
    unfold dropMarkers
    split
    next rest isText =>
      refine absurd ⟨rest.reverse, ?_⟩ unmarked
      rw [← List.reverse_reverse text, isText]
      simp [nestedMarker]
    next => rfl
  rw [withoutMarkers, kept, List.reverse_reverse]

/-- The text of a call, whose arguments are given by their texts. -/
def callText (name : List Char) (arguments : List (List Char)) : List Char :=
  name ++ '(' :: ([',', ' '].intercalate arguments ++ [')'])

theorem withoutKeywords_arguments (arguments : List (List Char)) :
    withoutKeywords ([',', ' '].intercalate arguments ++ [')']) =
      [',', ' '].intercalate (arguments.map withoutKeywords) ++ [')'] := by
  have bracket : withoutKeywords [')'] = [')'] := by decide +kernel
  induction arguments with
  | nil => exact bracket
  | cons argument rest ih =>
    cases rest with
    | nil =>
      simp only [List.intercalate_singleton, List.map_cons, List.map_nil]
      rw [withoutKeywords_append argument (by decide), bracket]
    | cons next rest =>
      have comma : ∀ more, withoutKeywords (',' :: ' ' :: more) =
          ',' :: ' ' :: withoutKeywords more := by
        intro more
        rw [withoutKeywords, if_neg (by simp), withoutKeywords, if_neg (by simp)]
      simp only [List.map_cons, List.intercalate_cons_cons, List.append_assoc, List.cons_append,
        List.nil_append] at ih ⊢
      rw [withoutKeywords_append argument rfl, comma, ih]

theorem withoutKeywords_callText (name : List Char) (arguments : List (List Char)) :
    withoutKeywords (callText name arguments) =
      callText (withoutKeywords name) (arguments.map withoutKeywords) := by
  rw [callText, withoutKeywords_append name rfl, withoutKeywords, if_neg (by simp),
    withoutKeywords_arguments, callText]

theorem holdsGrid_arguments (arguments : List (List Char)) :
    holdsGrid ([',', ' '].intercalate arguments ++ [')']) = arguments.any holdsGrid := by
  induction arguments with
  | nil => decide
  | cons argument rest ih =>
    cases rest with
    | nil =>
      simp only [List.intercalate_singleton, List.any_cons, List.any_nil]
      exact holdsGrid_append (by decide) argument []
    | cons next rest =>
      have blank : ∀ more, holdsGrid (' ' :: more) = holdsGrid more := fun more =>
        holdsGrid_append (by decide) [] more
      simp only [List.intercalate_cons_cons, List.append_assoc, List.cons_append,
        List.nil_append] at ih ⊢
      rw [holdsGrid_append (by decide), blank, ih, List.any_cons (l := next :: rest)]

theorem holdsGrid_callText (name : List Char) (arguments : List (List Char)) :
    holdsGrid (callText name arguments) = (holdsGrid name || arguments.any holdsGrid) := by
  rw [callText, holdsGrid_append (by decide), holdsGrid_arguments]

theorem not_marked_of_getLast? {text : List Char} {c : Char} (last : text.getLast? = some c)
    (differs : c ≠ 'D') : ¬nestedMarker.toList <:+ text := by
  rintro ⟨front, rfl⟩
  rw [List.getLast?_append, show nestedMarker.toList.getLast? = some 'D' by decide,
    Option.some_or, Option.some.injEq] at last
  exact differs last.symm

/-- A call ends with its closing parenthesis, and so with no marker. -/
theorem not_marked_callText (name : List Char) (arguments : List (List Char)) :
    ¬nestedMarker.toList <:+ callText name arguments := by
  refine not_marked_of_getLast? (c := ')') ?_ (by decide)
  rw [callText, ← List.cons_append, ← List.append_assoc, List.getLast?_concat]

theorem not_marked_keyword (path : String) :
    ¬nestedMarker.toList <:+ (path ++ keywordEnding).toList := by
  refine not_marked_of_getLast? (c := 'd') ?_ (by decide)
  rw [String.toList_append, List.getLast?_append,
    show keywordEnding.toList.getLast? = some 'd' by decide, Option.some_or]

end ColumnName

open ColumnName

/-- Two texts that the name of a column makes no difference between. -/
structure SameMarks (text other : String) : Prop where
  keywords : withoutKeywords text.toList = withoutKeywords other.toList
  grid : holdsGrid text.toList = holdsGrid other.toList

theorem columnName_of_unmarked {key : String} (unmarked : ¬nestedMarker.toList <:+ key.toList) :
    columnName key =
      if holdsGrid key.toList then "geohash"
      else String.ofList (withoutCounter (withoutKeywords key.toList)) := by
  rw [columnName, withoutMarkers_of_unmarked unmarked]
  rfl

theorem SameMarks.columnName_eq {text other : String} (same : SameMarks text other)
    (unmarked : ¬nestedMarker.toList <:+ text.toList)
    (otherUnmarked : ¬nestedMarker.toList <:+ other.toList) : columnName text = columnName other := by
  rw [columnName_of_unmarked unmarked, columnName_of_unmarked otherUnmarked, same.keywords,
    same.grid]

theorem sameMarks_keyword (path : String) : SameMarks (path ++ keywordEnding) path where
  keywords := by
    rw [String.toList_append]
    exact withoutKeywords_keyword path.toList
  grid := isGrid_keyword path

/-- The name of a call, as a text of its name and its arguments. -/
theorem toList_naturalName_call (name : String) (arguments : List Node) :
    (Selection.call name arguments).naturalName.toList =
      callText name.toList (arguments.map (·.render.toList)) := by
  simp [Selection.naturalName, callText, Function.comp_def]

/-- A node and its keyword field are written with the same marks. -/
theorem Node.sameMarks_asKeyword (mapping : Mapping) (node : Node) :
    SameMarks (node.asKeyword mapping).render node.render := by
  cases node with
  | field path =>
    rw [Node.asKeyword]
    split
    · exact sameMarks_keyword path
    · exact ⟨rfl, rfl⟩
  | _ => exact ⟨rfl, rfl⟩

theorem sameMarks_call (mapping : Mapping) (name : String) (arguments : List Node) :
    SameMarks (Selection.call name (arguments.map (·.asKeyword mapping))).naturalName
      (Selection.call name arguments).naturalName where
  keywords := by
    simp only [toList_naturalName_call, withoutKeywords_callText, List.map_map, Function.comp_def,
      (Node.sameMarks_asKeyword mapping _).keywords]
  grid := by
    simp only [toList_naturalName_call, holdsGrid_callText, List.any_map, Function.comp_def,
      (Node.sameMarks_asKeyword mapping _).grid]

/-- The column of an item is the same with and without keyword fields among its arguments. -/
theorem columnName_withKeywords (mapping : Mapping) (item : SelectItem) :
    columnName (item.withKeywords mapping).selection.naturalName =
      columnName item.selection.naturalName := by
  rcases item with ⟨selection, label⟩
  cases selection with
  | call name arguments =>
    have unmarked : ∀ arguments : List Node,
        ¬nestedMarker.toList <:+ (Selection.call name arguments).naturalName.toList := by
      intro arguments
      rw [toList_naturalName_call]
      exact not_marked_callText _ _
    exact (sameMarks_call mapping name arguments).columnName_eq (unmarked _) (unmarked _)
  | _ => rfl

theorem columnName_asKeyword (mapping : Mapping) {path : String}
    (unmarked : ¬nestedMarker.toList <:+ path.toList) :
    ∃ path', (Node.field path).asKeyword mapping = .field path' ∧
      columnName path' = columnName path := by
  rw [Node.asKeyword]
  split
  · exact ⟨_, rfl, (sameMarks_keyword path).columnName_eq (not_marked_keyword path) unmarked⟩
  · exact ⟨path, rfl, rfl⟩

/--
The columns of a select list are the same before and after the query is prepared, and so is the
column of a field that ends with no marker of nested documents.
-/
theorem columns_of_prepared (mapping : Mapping) :
    (∀ query : Query,
      (query.prepare mapping).select.map (fun item => columnName item.selection.naturalName) =
        query.select.map fun item => columnName item.selection.naturalName) ∧
    (∀ item : SelectItem, columnName (item.withKeywords mapping).selection.naturalName =
      columnName item.selection.naturalName) ∧
    ∀ path : String, ¬nestedMarker.toList <:+ path.toList →
      ∃ path', (Node.field path).asKeyword mapping = .field path' ∧
        columnName path' = columnName path := by
  refine ⟨fun query => ?_, columnName_withKeywords mapping, fun _ => columnName_asKeyword mapping⟩
  rw [Query.select_prepare]
  split
  · simp only [List.map_map, Function.comp_def, columnName_withKeywords]
  · rfl

/-- Two arguments get an ending, one of which has the ending of another field inside. -/
theorem columns_of_prepared_concat :
    let mapping : Mapping := [("name", .text), ("a.keyword.b)_1", .text)]
    let query : Query :=
      { select := [⟨.call "concat" [.field "name", .field "a.keyword.b)_1"], none⟩], index := "t"
        order := [⟨.field "name", true⟩] }
    (query.prepare mapping).select.map (·.selection.naturalName) =
        ["concat(name.keyword, a.keyword.b)_1.keyword)"] ∧
      (query.prepare mapping).select.map (fun item => columnName item.selection.naturalName) =
        ["concat(name, a.b)_1)"] ∧
      ∃ path', (Node.field "a.keyword.b)_1").asKeyword mapping = .field path' ∧
        columnName path' = "a.b)" := by
  intro mapping query
  rcases columns_of_prepared mapping with ⟨ofQueries, -, ofFields⟩
  have column : columnName "concat(name, a.keyword.b)_1)" = "concat(name, a.b)_1)" := by
    decide +kernel
  have fieldColumn : columnName "a.keyword.b)_1" = "a.b)" := by decide +kernel
  refine ⟨by decide +kernel, ?_, ?_⟩
  · rw [ofQueries query, ← column]
    rfl
  · rw [← fieldColumn]
    exact ofFields "a.keyword.b)_1" (by decide)

end SearchSql
