import SearchSql.Proofs.Row.KeywordColumns

/-!
# Columns in normal form

The name of a column has nothing left that naming takes off: it is the column of a grid, or it is
about no grid, no `.keyword` ends a word in it, and it is no call with a counter. For a single step
this is not plain. All endings are taken out at once, and where the pieces of the name meet there
could be a new ending, a grid or a counter; taking off the counter could uncover an ending.

The invariant is that a word at the beginning of what is left stood at the beginning of the text
(`exists_of_withoutKeywords_eq`). It holds since no word character stands behind an ending that is
taken out, so that what follows never continues the word before. An ending, a grid and a marker of
nested documents are each a character with a word behind it, and so none of them comes up where two
pieces meet.

A name in normal form is its own column unless it ends with a marker. Markers are looked for first,
and one that stands before an ending comes to the end of the name only when the ending is gone.
-/

namespace SearchSql

namespace Text

/-- A word begins or ends between two parts of a text. -/
def IsWordBoundary (before after : List Char) : Prop :=
  before.getLast?.any isWord ≠ after.head?.any isWord

theorem isWordBoundary_iff {before : List Char} {c : Char} (last : before.getLast? = some c)
    (letter : isWord c = true) (after : List Char) :
    IsWordBoundary before after ↔ endsWord after = true := by
  rw [IsWordBoundary, last, Option.any_some, letter]
  cases after with
  | nil => simp [endsWord]
  | cons d after => simp [endsWord]

/-- A letter of the word for a grid is a word character in either case. -/
theorem isWord_of_toLower {c : Char} (letter : c.toLower ∈ "geohash".toList) : isWord c = true := by
  unfold Char.toLower at letter
  split at letter
  next upper =>
    have isUpper : c.isUpper = true := by
      delta Char.isUpper
      simpa using upper
    have isAlpha : c.isAlpha = true := by
      delta Char.isAlpha
      rw [isUpper, Bool.true_or]
    have ascii : c.toNat < 0x80 := by
      have isValue : c.toNat = c.val.toNat := rfl
      have upTo := UInt32.le_iff_toNat_le.1 upper.2
      simp at upTo
      omega
    simp [isWord, ascii, Char.isAlphanum, isAlpha]
  next =>
    have letters : "geohash".toList.all isWord = true := rfl
    exact List.all_eq_true.1 letters c letter

end Text

namespace ColumnName

variable {text before after word callee counter : List Char} {first : Char}

section Endings

theorem endsWord_withoutKeywords (text : List Char) :
    Text.endsWord (withoutKeywords text) = Text.endsWord text := by
  fun_induction withoutKeywords text with
  | case1 => rfl
  | case2 c rest found ih =>
    rw [ih, found.2.2, found.1]
    rfl
  | case3 c rest _ ih => rfl

/-- A word that what is left begins with is what the text begins with. -/
theorem exists_of_withoutKeywords_eq (letters : word.all Text.isWord = true)
    (left : withoutKeywords text = word ++ after) :
    ∃ rest, text = word ++ rest ∧ withoutKeywords rest = after := by
  induction word generalizing text with
  | nil => exact ⟨text, rfl, left⟩
  | cons c word ih =>
    rw [List.all_cons, Bool.and_eq_true] at letters
    cases text with
    | nil =>
      rw [withoutKeywords] at left
      cases left
    | cons d rest =>
      rw [withoutKeywords] at left
      split at left
      next found =>
        -- behind an ending there is no word character
        have ends := endsWord_withoutKeywords (rest.drop keywordTail.length)
        rw [left, found.2.2] at ends
        simp [Text.endsWord, letters.1] at ends
      next =>
        rcases List.cons.inj left with ⟨rfl, isRest⟩
        rcases ih letters.2 isRest with ⟨more, rfl, isAfter⟩
        exact ⟨more, rfl, isAfter⟩

/-- A character with a word behind it is found in the text if it is found in what is left. -/
theorem infix_of_infix_withoutKeywords (letters : word.all Text.isWord = true)
    (found : first :: word <:+: withoutKeywords text) : first :: word <:+: text := by
  fun_induction withoutKeywords text with
  | case1 => exact found
  | case2 c rest _ ih =>
    have inRest := (ih found).trans (List.drop_suffix _ rest).isInfix
    exact inRest.trans (List.suffix_cons c rest).isInfix
  | case3 c rest _ ih =>
    rcases List.infix_cons_iff.1 found with ⟨after, atFront⟩ | further
    · rcases List.cons.inj atFront with ⟨rfl, isRest⟩
      rcases exists_of_withoutKeywords_eq letters isRest.symm with ⟨more, rfl, -⟩
      exact ⟨[], more, rfl⟩
    · exact (ih further).trans (List.suffix_cons c rest).isInfix

/-- No `.keyword` ends a word of a text. -/
def IsKeywordless (text : List Char) : Prop :=
  ∀ before after, text = before ++ ending ++ after → Text.endsWord after = false

theorem isKeywordless_withoutKeywords (text : List Char) :
    IsKeywordless (withoutKeywords text) := by
  intro before after left
  fun_induction withoutKeywords text generalizing before with
  | case1 => simp [ending] at left
  | case2 c rest _ ih => exact ih before left
  | case3 c rest notFound ih =>
    cases before with
    | cons d before => exact ih before (List.cons.inj left).2
    | nil =>
      rcases List.cons.inj left with ⟨isDot, isRest⟩
      have letters : keywordTail.all Text.isWord = true := rfl
      rcases exists_of_withoutKeywords_eq letters isRest with ⟨more, rfl, rfl⟩
      rw [endsWord_withoutKeywords, Bool.eq_false_iff]
      intro ends
      apply notFound
      refine ⟨isDot, ?_, ?_⟩
      · rw [List.isPrefixOf_iff_prefix]
        exact List.prefix_append _ _
      · rwa [List.drop_left]

theorem IsKeywordless.withoutKeywords_eq (keywordless : IsKeywordless text) :
    withoutKeywords text = text := by
  fun_induction withoutKeywords text with
  | case1 => rfl
  | case2 c rest found ih =>
    rcases List.isPrefixOf_iff_prefix.1 found.2.1 with ⟨after, rfl⟩
    have ends := found.2.2
    rw [List.drop_left, keywordless [] after (by rw [found.1]; rfl)] at ends
    cases ends
  | case3 c rest _ ih =>
    rw [ih]
    rintro before after rfl
    exact keywordless (c :: before) after rfl

theorem isWordBoundary_ending (before after : List Char) :
    Text.IsWordBoundary (before ++ ".keyword".toList) after ↔ Text.endsWord after = true := by
  apply Text.isWordBoundary_iff (c := 'd')
  · rw [List.getLast?_append]
    rfl
  · decide

theorem isKeywordless_iff :
    IsKeywordless text ↔ ∀ before after, text = before ++ ".keyword".toList ++ after →
      ¬Text.IsWordBoundary (before ++ ".keyword".toList) after := by
  simp only [isWordBoundary_ending, Bool.not_eq_true]
  rfl

end Endings

section Counters

/-- A text is a call with a counter behind it, as the engine names one that was made before. -/
structure Repeats (text callee counter : List Char) : Prop where
  isText : text = callee ++ ")_".toList ++ counter
  named : callee ≠ []
  oneLine : '\n' ∉ callee
  counted : counter ≠ []
  digits : ∀ c ∈ counter, Text.isDecimalDigit c = true

theorem withoutCounter_of_repeats (repeats : Repeats text callee counter) :
    withoutCounter text = callee ++ [')'] := by
  rcases repeats with ⟨rfl, named, oneLine, counted, digits⟩
  have backwards : (callee ++ ")_".toList ++ counter).reverse =
      counter.reverse ++ '_' :: ')' :: callee.reverse := by simp
  have noDigit : Text.isDecimalDigit '_' = false := by decide
  have digitsBack : ∀ c ∈ counter.reverse, Text.isDecimalDigit c = true := by
    intro c inCounter
    exact digits c (List.mem_reverse.1 inCounter)
  rcases List.exists_cons_of_ne_nil (mt List.reverse_eq_nil_iff.1 counted) with ⟨d, ds, isCounter⟩
  rcases List.exists_cons_of_ne_nil (mt List.reverse_eq_nil_iff.1 named) with ⟨c, cs, isCallee⟩
  have noBreak : (c :: cs).contains '\n' = false := by
    rw [← isCallee]
    simpa using oneLine
  rw [withoutCounter, backwards, List.takeWhile_append_of_pos digitsBack,
    List.dropWhile_append_of_pos digitsBack, List.takeWhile_cons_of_neg (by simp [noDigit]),
    List.dropWhile_cons_of_neg (by simp [noDigit]), List.append_nil, isCounter, isCallee]
  simp only [noBreak, Bool.false_eq_true, if_false]
  rw [← isCallee]
  simp

theorem withoutCounter_of_not_repeats
    (single : ¬∃ callee counter, Repeats text callee counter) : withoutCounter text = text := by
  rw [withoutCounter]
  split
  next d ds c before isDigits isRest =>
    split
    · rfl
    next oneLine =>
      refine absurd ⟨(c :: before).reverse, (d :: ds).reverse, ?_⟩ single
      have backwards :=
        List.takeWhile_append_dropWhile (p := Text.isDecimalDigit) (l := text.reverse)
      rw [isDigits, isRest] at backwards
      refine ⟨?_, by simp, by simpa [and_comm] using oneLine, by simp, ?_⟩
      · rw [← List.reverse_reverse text, ← backwards]
        simp
      · intro c inCounter
        rw [List.mem_reverse, ← isDigits] at inCounter
        exact List.all_eq_true.1 List.all_takeWhile c inCounter
  · rfl

theorem withoutCounter_cases (text : List Char) :
    (withoutCounter text = text ∧ ¬∃ callee counter, Repeats text callee counter) ∨
      ∃ callee counter, Repeats text callee counter ∧ withoutCounter text = callee ++ [')'] := by
  by_cases counted : ∃ callee counter, Repeats text callee counter
  · rcases counted with ⟨callee, counter, repeats⟩
    exact .inr ⟨callee, counter, repeats, withoutCounter_of_repeats repeats⟩
  · exact .inl ⟨withoutCounter_of_not_repeats counted, counted⟩

/-- What a counter is taken off ends with a parenthesis, and so with no counter. -/
theorem not_repeats_withoutCounter (text : List Char) :
    ¬∃ callee counter, Repeats (withoutCounter text) callee counter := by
  rcases withoutCounter_cases text with ⟨same, single⟩ | ⟨callee, -, -, isCall⟩
  · rwa [same]
  · rw [isCall]
    rintro ⟨inner, counter, repeats⟩
    have last := congrArg List.getLast? repeats.isText
    rw [List.getLast?_concat, List.getLast?_append, List.getLast?_eq_some_getLast repeats.counted,
      Option.some_or, Option.some.injEq] at last
    have digit := repeats.digits _ (List.getLast_mem repeats.counted)
    rw [← last] at digit
    exact absurd digit (by decide)

/-- Nor does it end with an ending that the counter has hidden. -/
theorem IsKeywordless.withoutCounter (keywordless : IsKeywordless text) :
    IsKeywordless (withoutCounter text) := by
  rcases withoutCounter_cases text with ⟨same, -⟩ | ⟨callee, counter, ⟨isText, -⟩, isCall⟩
  · rwa [same]
  · intro before after left
    rw [isCall] at left
    cases after with
    | nil =>
      have last := congrArg List.getLast? left
      simp [ending, keywordTail] at last
    | cons c after =>
      refine keywordless before (c :: after ++ '_' :: counter) ?_
      rw [isText, ← List.append_assoc, ← left]
      simp

end Counters

theorem toList_nestedMarker : nestedMarker.toList = '@' :: "NESTED".toList := by decide

theorem withoutMarkers_marked (text : List Char) :
    withoutMarkers (text ++ nestedMarker.toList) = withoutMarkers text := by
  have dropped : dropMarkers (text ++ nestedMarker.toList).reverse = dropMarkers text.reverse := by
    rw [List.reverse_append]
    rfl
  rw [withoutMarkers, dropped, withoutMarkers]

/-- The name of a column that is about no grid. -/
def plainName (text : List Char) : List Char :=
  withoutCounter (withoutKeywords (withoutMarkers text))

theorem length_plainName_le (text : List Char) : (plainName text).length ≤ text.length := by
  have kept := (withoutKeywords_sublist _).trans (prefix_withoutMarkers text).sublist
  exact ((prefix_withoutCounter _).sublist.trans kept).length_le

/-- A character with a word behind it is found in a text if it is found in its name. -/
theorem infix_of_infix_plainName (letters : word.all Text.isWord = true)
    (found : first :: word <:+: plainName text) : first :: word <:+: text := by
  have inKept := infix_of_infix_withoutKeywords letters
    (found.trans (prefix_withoutCounter _).isInfix)
  exact inKept.trans (prefix_withoutMarkers text).isInfix

theorem holdsGrid_iff : holdsGrid text = true ↔ "geohash".toList <:+: text.map Char.toLower := by
  rw [holdsGrid, Text.occursIn_iff]
  constructor
  · rintro ⟨before, after, isText⟩
    exact ⟨before, after, isText.symm⟩
  · rintro ⟨before, after, isText⟩
    exact ⟨before, after, isText.symm⟩

theorem holdsGrid_of_plainName (grid : holdsGrid (plainName text) = true) :
    holdsGrid text = true := by
  rw [holdsGrid_iff] at grid ⊢
  rcases List.infix_map_iff.1 grid with ⟨word, found, isGrid⟩
  have letters : word.all Text.isWord = true := by
    rw [List.all_eq_true]
    intro c inWord
    apply Text.isWord_of_toLower
    rw [isGrid]
    exact List.mem_map_of_mem inWord
  cases word with
  | nil => simp at isGrid
  | cons first word =>
    rw [List.all_cons, Bool.and_eq_true] at letters
    rw [isGrid]
    exact (infix_of_infix_plainName letters.2 found).map Char.toLower

/-- A name that nothing is left in that naming takes off, markers apart. -/
structure IsNormal (name : String) : Prop where
  noGrid : ¬"geohash".toList <:+: name.toList.map Char.toLower
  noKeyword : ∀ before after, name.toList = before ++ ".keyword".toList ++ after →
    ¬Text.IsWordBoundary (before ++ ".keyword".toList) after
  noCounter : ¬∃ callee counter, Repeats name.toList callee counter

end ColumnName

open ColumnName

variable {key name : String}

theorem columnName_eq (key : String) :
    columnName key =
      if holdsGrid key.toList then "geohash" else String.ofList (plainName key.toList) := rfl

theorem isNormal_columnName (key : String) :
    columnName key = "geohash" ∨ IsNormal (columnName key) := by
  rw [columnName_eq]
  split
  · exact .inl rfl
  next noGrid =>
    right
    have isName : (String.ofList (plainName key.toList)).toList = plainName key.toList :=
      String.toList_ofList
    constructor
    · rw [isName, ← holdsGrid_iff]
      exact fun grid => noGrid (holdsGrid_of_plainName grid)
    · rw [isName, ← isKeywordless_iff]
      exact (isKeywordless_withoutKeywords _).withoutCounter
    · rw [isName]
      exact not_repeats_withoutCounter _

theorem columnName_of_isNormal (normal : IsNormal name)
    (unmarked : ¬nestedMarker.toList <:+ name.toList) : columnName name = name := by
  have noGrid : ¬holdsGrid name.toList = true := by
    rw [holdsGrid_iff]
    exact normal.noGrid
  have keywordless : IsKeywordless name.toList := isKeywordless_iff.2 normal.noKeyword
  rw [columnName_of_unmarked unmarked, if_neg noGrid, keywordless.withoutKeywords_eq,
    withoutCounter_of_not_repeats normal.noCounter, String.ofList_toList]

theorem columnName_marked (key : String) : columnName (key ++ nestedMarker) = columnName key := by
  have noGrid : holdsGrid "NESTED".toList = false := by decide
  have grid : holdsGrid (key ++ nestedMarker).toList = holdsGrid key.toList := by
    rw [String.toList_append, toList_nestedMarker, holdsGrid_append (by decide), noGrid,
      Bool.or_false]
  rw [columnName_eq, columnName_eq, grid, String.toList_append, plainName, withoutMarkers_marked,
    plainName]

theorem columnName_allMarked (key : String) (times : Nat) :
    columnName (key ++ String.join (List.replicate times nestedMarker)) = columnName key := by
  induction times generalizing key with
  | zero => simp
  | succ times ih =>
    rw [List.replicate_succ, String.join_cons, ← String.append_assoc, ih, columnName_marked]

/-- The names that stay as they are. -/
theorem columnName_eq_self_iff :
    columnName name = name ↔
      (name = "geohash" ∨ IsNormal name) ∧ ¬nestedMarker.toList <:+ name.toList := by
  constructor
  · intro same
    have normal := isNormal_columnName name
    rw [same] at normal
    refine ⟨normal, ?_⟩
    rintro ⟨front, isName⟩
    -- the marker is taken off, and nothing comes in its place
    have marked : name = String.ofList front ++ nestedMarker := by
      rw [← String.toList_inj, String.toList_append, String.toList_ofList, isName]
    rw [marked, columnName_marked, ← marked, columnName_eq, String.toList_ofList] at same
    split at same
    · rw [← same] at isName
      exact absurd ⟨front, isName⟩ (by decide : ¬nestedMarker.toList <:+ "geohash".toList)
    · have shorter := length_plainName_le front
      rw [← String.toList_inj, String.toList_ofList] at same
      rw [same, ← isName, List.length_append, toList_nestedMarker, List.length_cons] at shorter
      omega
  · rintro ⟨rfl | normal, unmarked⟩
    · rfl
    · exact columnName_of_isNormal normal unmarked

theorem not_marked_columnName (unmarked : ¬nestedMarker.toList <:+: key.toList) :
    ¬nestedMarker.toList <:+ (columnName key).toList := by
  have letters : "NESTED".toList.all Text.isWord = true := rfl
  rw [columnName_eq]
  split
  · decide
  · intro marked
    rw [String.toList_ofList, toList_nestedMarker] at marked
    rw [toList_nestedMarker] at unmarked
    exact unmarked (infix_of_infix_plainName letters marked.isInfix)

/--
A column is that of a grid, or its name is in normal form. It is its own column if the key had no
marker of nested documents, and markers at the end of a key make no difference. The names that stay
as they are, are just those in normal form without a marker at the end.
-/
theorem columnName_normalizes :
    (∀ key, columnName key = "geohash" ∨ IsNormal (columnName key)) ∧
    (∀ key : String, ¬nestedMarker.toList <:+: key.toList →
      columnName (columnName key) = columnName key) ∧
    (∀ (key : String) (times : Nat),
      columnName (key ++ String.join (List.replicate times nestedMarker)) = columnName key) ∧
    ∀ name, columnName name = name ↔
      (name = "geohash" ∨ IsNormal name) ∧ ¬nestedMarker.toList <:+ name.toList := by
  refine ⟨isNormal_columnName, ?_, columnName_allMarked, fun name => columnName_eq_self_iff⟩
  intro key unmarked
  rw [columnName_eq_self_iff]
  exact ⟨isNormal_columnName key, not_marked_columnName unmarked⟩

/-- Two endings meet inside a call, and a third one stands behind its counter. -/
theorem columnName_normalizes_repeated :
    let key := "MAX(tags.keyword.keyword)_1.keyword"
    ¬nestedMarker.toList <:+: key.toList ∧
      columnName key = "MAX(tags)" ∧ IsNormal "MAX(tags)" ∧
      columnName "MAX(tags)" = "MAX(tags)" ∧
      columnName (key ++ String.join (List.replicate 2 nestedMarker)) = "MAX(tags)" := by
  intro key
  rcases columnName_normalizes with ⟨normal, again, marked, -⟩
  have unmarked : ¬nestedMarker.toList <:+: key.toList := by decide +kernel
  have column : columnName key = "MAX(tags)" := by decide +kernel
  refine ⟨unmarked, column, ?_, ?_, ?_⟩
  · rw [← column]
    exact (normal key).resolve_left (by rw [column]; decide)
  · rw [← column]
    exact again key unmarked
  · rw [← column]
    exact marked key 2

/-- A marker before an ending comes to the end, where it is taken off the next time. -/
example : columnName "tags@NESTED.keyword" = "tags@NESTED" ∧
    columnName "tags@NESTED" = "tags" := by decide +kernel

end SearchSql
