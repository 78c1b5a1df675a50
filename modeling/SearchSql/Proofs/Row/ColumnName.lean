import SearchSql.Query.Prepare
import SearchSql.Row.ColumnName

/-!
# Columns of grouped fields

A field of analysed text is grouped by its keyword field, and the column of the aggregation drops the
ending again. That the column then goes by the name of the field is not true of every field: the
column may lose more than the ending. It is true of the fields whose own name is the name of their
column, which is `columnName_keyword`.

Each step of `columnName` only leaves characters out. A name that comes out unchanged was therefore
left alone by every single step.
-/

namespace SearchSql

namespace Text

theorem isPrefixOf_append_of_not_mem {c : Char} {wanted : List Char} (absent : c ∉ wanted)
    (text rest : List Char) : wanted.isPrefixOf (text ++ c :: rest) = wanted.isPrefixOf text := by
  rw [Bool.eq_iff_iff, List.isPrefixOf_iff_prefix, List.isPrefixOf_iff_prefix]
  constructor
  · intro isPrefix
    have reaches : text ++ [c] <+: text ++ c :: rest := ⟨rest, by simp⟩
    rcases List.prefix_or_prefix_of_prefix isPrefix reaches with short | long
    · rcases List.prefix_concat_iff.1 short with whole | inText
      · exact absurd (whole ▸ by simp) absent
      · exact inText
    · exact absurd (long.subset (by simp)) absent
  · exact fun isPrefix => isPrefix.trans (List.prefix_append _ _)

theorem occursIn_append_of_not_mem {c : Char} {wanted : List Char} (absent : c ∉ wanted)
    (text rest : List Char) :
    occursIn wanted (text ++ c :: rest) = (occursIn wanted text || occursIn wanted rest) := by
  induction text with
  | nil =>
    have atStart := isPrefixOf_append_of_not_mem absent [] rest
    rw [List.nil_append] at atStart ⊢
    rw [occursIn.eq_2, atStart]
    cases wanted <;> rfl
  | cons d text ih =>
    rw [List.cons_append, occursIn, ← List.cons_append, isPrefixOf_append_of_not_mem absent, ih,
      occursIn, Bool.or_assoc]

end Text

namespace ColumnName

theorem dropMarkers_suffix (text : List Char) : dropMarkers text <:+ text := by
  fun_induction dropMarkers text with
  | case1 rest ih => exact ih.trans ⟨['D', 'E', 'T', 'S', 'E', 'N', '@'], rfl⟩
  | case2 text => exact List.suffix_refl text

theorem prefix_withoutMarkers (text : List Char) : withoutMarkers text <+: text := by
  have kept := List.reverse_prefix.2 (dropMarkers_suffix text.reverse)
  rwa [List.reverse_reverse] at kept

theorem withoutKeywords_sublist (text : List Char) : (withoutKeywords text).Sublist text := by
  fun_induction withoutKeywords text with
  | case1 => exact List.Sublist.refl []
  | case2 c rest found ih => exact (ih.trans (List.drop_sublist _ _)).cons c
  | case3 c rest _ ih => exact ih.cons_cons c

theorem prefix_withoutCounter (text : List Char) : withoutCounter text <+: text := by
  simp only [withoutCounter]
  split
  next c before isDigits isRest =>
    split
    · exact List.prefix_refl text
    · -- what is left is the text from its closing parenthesis backwards
      have backwards := List.dropWhile_suffix Text.isDecimalDigit (l := text.reverse)
      rw [isRest] at backwards
      have kept := List.reverse_prefix.2 ((List.suffix_cons _ _).trans backwards)
      rwa [List.reverse_reverse] at kept
  · exact List.prefix_refl text

def ending : List Char := '.' :: keywordTail

theorem withoutMarkers_keyword (text : List Char) :
    withoutMarkers (text ++ ending) = text ++ ending := by
  have endsLower : dropMarkers (text ++ ending).reverse = (text ++ ending).reverse := by
    rw [List.reverse_append]
    rfl
  rw [withoutMarkers, endsLower, List.reverse_reverse]

/-- Whether an ending is dropped at a place does not depend on what follows behind the last word. -/
theorem endsKeyword_append (rest : List Char) {tail : List Char}
    (ends : Text.endsWord tail = true) :
    (keywordTail.isPrefixOf (rest ++ tail) ∧
        Text.endsWord ((rest ++ tail).drop keywordTail.length)) ↔
      (keywordTail.isPrefixOf rest ∧ Text.endsWord (rest.drop keywordTail.length)) := by
  have samePrefix : keywordTail.isPrefixOf (rest ++ tail) = keywordTail.isPrefixOf rest := by
    cases tail with
    | nil => rw [List.append_nil]
    | cons c more =>
      have letters : keywordTail.all Text.isWord = true := rfl
      have noLetter : c ∉ keywordTail := fun isLetter => by
        simp [Text.endsWord, List.all_eq_true.1 letters c isLetter] at ends
      exact Text.isPrefixOf_append_of_not_mem noLetter rest more
  rw [samePrefix]
  refine and_congr_right fun isPrefix => ?_
  rw [List.drop_append_of_le_length (List.isPrefixOf_iff_prefix.1 isPrefix).length_le]
  cases rest.drop keywordTail.length with
  | nil => exact iff_of_true ends rfl
  | cons c more => rfl

/-- Endings are dropped on both sides of the end of a word, and none lies across it. -/
theorem withoutKeywords_append (text : List Char) {tail : List Char}
    (ends : Text.endsWord tail = true) :
    withoutKeywords (text ++ tail) = withoutKeywords text ++ withoutKeywords tail := by
  fun_induction withoutKeywords text with
  | case1 => rfl
  | case2 c rest found ih =>
    rw [List.cons_append, withoutKeywords,
      if_pos ⟨found.1, (endsKeyword_append rest ends).2 found.2⟩,
      List.drop_append_of_le_length (List.isPrefixOf_iff_prefix.1 found.2.1).length_le]
    exact ih
  | case3 c rest notFound ih =>
    rw [List.cons_append, withoutKeywords, if_neg, ih, List.cons_append]
    exact fun found => notFound ⟨found.1, (endsKeyword_append rest ends).1 found.2⟩

theorem withoutKeywords_keyword (text : List Char) :
    withoutKeywords (text ++ ending) = withoutKeywords text := by
  have dropped : withoutKeywords ending = [] := by
    rw [ending, withoutKeywords, if_pos (by decide)]
    exact withoutKeywords.eq_1
  rw [withoutKeywords_append text (by decide), dropped, List.append_nil]

/-- A text is a grid or not whether or not it has one more ending. -/
theorem isGrid_keyword (path : String) :
    Text.holdsAnyCase "geohash" (path ++ keywordEnding) = Text.holdsAnyCase "geohash" path := by
  unfold Text.holdsAnyCase
  rw [String.toList_append, List.map_append,
    show keywordEnding.toList.map Char.toLower = '.' :: keywordTail by decide,
    Text.occursIn_append_of_not_mem (by decide),
    show Text.occursIn "geohash".toList keywordTail = false by decide, Bool.or_false]

end ColumnName

open ColumnName

/-- The keyword field of a field that names its own column fills that column too. -/
theorem columnName_keyword {path : String} (isColumn : columnName path = path) :
    columnName (path ++ keywordEnding) = path := by
  have endingChars : keywordEnding.toList = ending := by decide
  unfold columnName at isColumn ⊢
  rw [isGrid_keyword]
  split at isColumn
  next isGrid => rw [if_pos isGrid, isColumn]
  next noGrid =>
    rw [String.toList_append, endingChars, withoutMarkers_keyword, withoutKeywords_keyword]
    have chars := congrArg String.toList isColumn
    rw [String.toList_ofList] at chars
    -- the name is as long as it was, so that no step has left anything out
    have markers := (prefix_withoutMarkers path.toList).sublist
    have keywords := withoutKeywords_sublist (withoutMarkers path.toList)
    have counter := (prefix_withoutCounter (withoutKeywords (withoutMarkers path.toList))).sublist
    rw [chars] at counter
    have sameMarkers : withoutMarkers path.toList = path.toList :=
      markers.eq_of_length_le (counter.trans keywords).length_le
    rw [sameMarkers] at chars
    rw [if_neg noGrid, chars, String.ofList_toList]

end SearchSql
