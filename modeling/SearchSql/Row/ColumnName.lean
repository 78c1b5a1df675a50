import SearchSql.Text.Search
import SearchSql.Text.Word

/-!
# Names of aggregation columns

The search engine names an aggregation after the expression that it computes. The column loses what
the engine, or the preparation of the query, added to the name: markers of nested documents at the
end, `.keyword` wherever a word ends after it, and the counter behind a call that was made more than
once. Everything about a grid is called `geohash`.
-/

namespace SearchSql

/-- Marks an aggregation over nested documents. -/
def nestedMarker : String := "@NESTED"

namespace ColumnName

/-- Drops nested markers from the end of a text that is given last character first. -/
def dropMarkers : List Char → List Char
  | 'D' :: 'E' :: 'T' :: 'S' :: 'E' :: 'N' :: '@' :: rest => dropMarkers rest
  | text => text

def withoutMarkers (text : List Char) : List Char := (dropMarkers text.reverse).reverse

def keywordTail : List Char := ['k', 'e', 'y', 'w', 'o', 'r', 'd']

/-- Removes every `.keyword` that ends a word, from left to right. -/
def withoutKeywords : List Char → List Char
  | [] => []
  | c :: rest =>
    if c = '.' ∧ keywordTail.isPrefixOf rest ∧ Text.endsWord (rest.drop keywordTail.length) then
      withoutKeywords (rest.drop keywordTail.length)
    else c :: withoutKeywords rest
termination_by text => text.length
decreasing_by
  · simp only [List.length_drop, List.length_cons]
    omega
  · simp

/--
Removes the counter of a repeated call: an underscore and digits at the end, behind a closing
parenthesis that has something before it on its line.
-/
def withoutCounter (text : List Char) : List Char :=
  let backwards := text.reverse
  match backwards.takeWhile Text.isDecimalDigit, backwards.dropWhile Text.isDecimalDigit with
  | _ :: _, '_' :: ')' :: c :: before =>
    if (c :: before).contains '\n' then text else (')' :: c :: before).reverse
  | _, _ => text

end ColumnName

/-- The column of the output that an aggregation fills. -/
def columnName (key : String) : String :=
  if Text.holdsAnyCase "geohash" key then "geohash"
  else
    String.ofList <|
      ColumnName.withoutCounter
        (ColumnName.withoutKeywords (ColumnName.withoutMarkers key.toList))

end SearchSql
