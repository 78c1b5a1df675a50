import SearchSql.Proofs.Geometry.Written

/-!
# Texts of geometries can be read back

Two GeoJSON values that have the same Well-Known Text are the same geometry (`GeoJson.SameGeometry`):
features stand for their geometries, and of a position the texts of its first three ordinates count.

The induction is over both values at once and carries what follows the texts. A text whose end can
be seen leaves no choice of where it ends, whatever comes next; an ordinate or a position can only
be told to end by a character that none of them has. `ReadsBack` says so of one value, with the
characters that have to follow as a parameter, and `forall₂_of_intercalate` passes from the elements
of a list to the list.
-/

namespace SearchSql

namespace GeoJson

/-- The text of an ordinate, of a value that is a number. -/
def ordinate? (value : Json) : Option String := value.asDouble?.map ordinateText

/--
The same lists down to the positions, and in each position the same texts of the ordinates that
count.
-/
def SameCoordinates : Nat → Json → Json → Prop
  | 0, value, other =>
    ∃ ordinates ordinates', value = .array ordinates ∧ other = .array ordinates' ∧
      (ordinates.take 3).map ordinate? = (ordinates'.take 3).map ordinate?
  | levels + 1, value, other =>
    ∃ items items', value = .array items ∧ other = .array items' ∧
      List.Forall₂ (SameCoordinates levels) items items'

inductive SameGeometry : Json → Json → Prop
  | wrapped {value inner other : Json} (wraps : Wraps value inner)
      (same : SameGeometry inner other) : SameGeometry value other
  | wrappedOther {value other inner : Json} (wraps : Wraps other inner)
      (same : SameGeometry value inner) : SameGeometry value other
  | shaped {value other coordinates coordinates' : Json} {shape : Shape}
      (isShaped : IsShaped value shape coordinates) (isShaped' : IsShaped other shape coordinates')
      (same : SameCoordinates shape.depth coordinates coordinates') : SameGeometry value other
  | collection {value other : Json} {items items' : List Json}
      (isCollection : IsCollection value items) (isCollection' : IsCollection other items')
      (sameLength : items.length = items'.length)
      (same : ∀ pair ∈ items.zip items', SameGeometry pair.1 pair.2) : SameGeometry value other

end GeoJson

namespace Wkt

open GeoJson

/-! ## Where a text ends -/

def StartsIn (chars text : List Char) : Prop := ∃ c rest, c ∈ chars ∧ text = c :: rest

theorem append_inj_of_stops {p : Char → Bool} {text other rest otherRest : List Char}
    (inside : ∀ c ∈ text, p c = true) (otherInside : ∀ c ∈ other, p c = true)
    (stops : ∀ c ∈ rest.head?, p c = false) (otherStops : ∀ c ∈ otherRest.head?, p c = false)
    (same : text ++ rest = other ++ otherRest) : text = other ∧ rest = otherRest := by
  induction text generalizing other with
  | nil =>
    cases other with
    | nil => exact ⟨rfl, same⟩
    | cons c other =>
      have stopped := stops c (by simpa using congrArg List.head? same)
      rw [otherInside c List.mem_cons_self] at stopped
      cases stopped
  | cons c text ih =>
    rcases List.forall_mem_cons.1 inside with ⟨here, later⟩
    cases other with
    | nil =>
      have stopped := otherStops c (by simpa using congrArg List.head? same.symm)
      rw [here] at stopped
      cases stopped
    | cons c' other =>
      rcases List.cons.inj same with ⟨rfl, sameLater⟩
      rcases ih later (List.forall_mem_cons.1 otherInside).2 sameLater with ⟨rfl, sameRest⟩
      exact ⟨rfl, sameRest⟩

variable {α : Type} {HasText : α → List Char → Prop} {Same : α → α → Prop}

/-- Whatever else has a text that goes on like that of an item is the same as the item. -/
def ReadsBack (HasText : α → List Char → Prop) (Same : α → α → Prop) (ends : List Char → Prop)
    (item : α) (text : List Char) : Prop :=
  ∀ ⦃other : α⦄ ⦃otherText rest otherRest : List Char⦄, HasText other otherText → ends rest →
    ends otherRest → text ++ rest = otherText ++ otherRest → Same item other ∧ rest = otherRest

/-- What ends in itself may be followed by anything. -/
theorem ReadsBack.followed {item : α} {text : List Char}
    (readsBack : ReadsBack HasText Same (fun _ => True) item text) (ends : List Char → Prop) :
    ReadsBack HasText Same ends item text :=
  fun _ _ _ _ hasOther _ _ same => readsBack hasOther trivial trivial same

section Lists

variable {separator : Char} {gap closers : List Char} {items others : List α}
  {texts otherTexts : List (List Char)} {rest otherRest : List Char}

/-- The texts of a list behind the first one, each behind a separator. -/
def laterTexts (separator : List Char) (texts : List (List Char)) : List Char :=
  texts.flatMap (separator ++ ·)

theorem intercalate_cons (separator text : List Char) (texts : List (List Char)) :
    separator.intercalate (text :: texts) = text ++ laterTexts separator texts := by
  induction texts generalizing text with
  | nil => simp [laterTexts]
  | cons next texts ih => simp [List.intercalate_cons_cons, ih, laterTexts]

theorem startsIn_laterTexts (closes : StartsIn closers rest) (texts : List (List Char)) :
    StartsIn (separator :: closers) (laterTexts (separator :: gap) texts ++ rest) := by
  cases texts with
  | nil =>
    rcases closes with ⟨c, more, isCloser, rfl⟩
    exact ⟨c, more, List.mem_cons_of_mem _ isCloser, rfl⟩
  | cons text texts => exact ⟨separator, _, List.mem_cons_self, rfl⟩

theorem forall₂_of_laterTexts (notCloser : separator ∉ closers)
    (readBack : List.Forall₂ (ReadsBack HasText Same (StartsIn (separator :: closers))) items texts)
    (otherItems : List.Forall₂ HasText others otherTexts) (closes : StartsIn closers rest)
    (otherCloses : StartsIn closers otherRest)
    (same : laterTexts (separator :: gap) texts ++ rest =
      laterTexts (separator :: gap) otherTexts ++ otherRest) :
    List.Forall₂ Same items others ∧ rest = otherRest := by
  -- where the one list ends the other does, because no closer separates
  have apart : ∀ {rest more : List Char}, StartsIn closers rest → rest ≠ separator :: more := by
    rintro _ more ⟨c, tail, isCloser, rfl⟩ isSeparator
    exact notCloser ((List.cons.inj isSeparator).1 ▸ isCloser)
  induction readBack generalizing others otherTexts with
  | nil =>
    cases otherItems with
    | nil => exact ⟨.nil, same⟩
    | cons _ _ => exact absurd same (apart closes)
  | cons here _ ih =>
    cases otherItems with
    | nil => exact absurd same.symm (apart otherCloses)
    | cons otherHere otherLater =>
      simp only [laterTexts, List.flatMap_cons, List.append_assoc, List.append_cancel_left_eq]
        at same
      rcases here otherHere (startsIn_laterTexts closes _) (startsIn_laterTexts otherCloses _) same
        with ⟨sameHere, sameLater⟩
      rcases ih otherLater sameLater with ⟨sameItems, sameRest⟩
      exact ⟨.cons sameHere sameItems, sameRest⟩

theorem forall₂_of_intercalate (notCloser : separator ∉ closers)
    (haveTexts : List.Forall₂ HasText items texts)
    (readBack : List.Forall₂ (ReadsBack HasText Same (StartsIn (separator :: closers))) items texts)
    (otherItems : List.Forall₂ HasText others otherTexts)
    (firsts : ∀ {item text rest}, HasText item text → ¬StartsIn closers (text ++ rest))
    (closes : StartsIn closers rest)
    (otherCloses : StartsIn closers otherRest)
    (same : (separator :: gap).intercalate texts ++ rest =
      (separator :: gap).intercalate otherTexts ++ otherRest) :
    List.Forall₂ Same items others ∧ rest = otherRest := by
  cases readBack with
  | nil =>
    cases otherItems with
    | nil => exact ⟨.nil, by simpa using same⟩
    | cons otherHere _ =>
      rw [intercalate_cons, List.append_assoc] at same
      simp only [List.intercalate_nil, List.nil_append] at same
      exact absurd (same ▸ closes) (firsts otherHere)
  | cons here later =>
    cases otherItems with
    | nil =>
      rw [intercalate_cons, List.append_assoc] at same
      simp only [List.intercalate_nil, List.nil_append] at same
      cases haveTexts with
      | cons hasText _ => exact absurd (same ▸ otherCloses) (firsts hasText)
    | cons otherHere otherLater =>
      rw [intercalate_cons, intercalate_cons, List.append_assoc, List.append_assoc] at same
      rcases here otherHere (startsIn_laterTexts closes _) (startsIn_laterTexts otherCloses _) same
        with ⟨sameHere, sameLater⟩
      rcases forall₂_of_laterTexts notCloser later otherLater closes otherCloses sameLater
        with ⟨sameItems, sameRest⟩
      exact ⟨.cons sameHere sameItems, sameRest⟩

end Lists

section Bracketed

variable {items others : List α} {texts otherTexts : List (List Char)} {rest otherRest : List Char}

/-- The characters that may follow an element of a list in brackets. -/
def closers : List Char := [',', ')']

theorem forall₂_of_bracketed (haveTexts : List.Forall₂ HasText items texts)
    (readBack : List.Forall₂ (ReadsBack HasText Same (StartsIn closers)) items texts)
    (otherItems : List.Forall₂ HasText others otherTexts)
    (firsts : ∀ {item text rest}, HasText item text → ¬StartsIn [')'] (text ++ rest))
    (same : bracketed texts ++ rest = bracketed otherTexts ++ otherRest) :
    List.Forall₂ Same items others ∧ rest = otherRest := by
  have closes : ∀ rest, StartsIn [')'] (')' :: rest) := fun rest => ⟨_, rest, List.mem_cons_self, rfl⟩
  have inside : [',', ' '].intercalate texts ++ ')' :: rest =
      [',', ' '].intercalate otherTexts ++ ')' :: otherRest := by
    simpa [bracketed] using same
  rcases forall₂_of_intercalate (by decide) haveTexts readBack otherItems firsts (closes rest)
    (closes otherRest) inside with ⟨sameItems, sameRest⟩
  exact ⟨sameItems, (List.cons.inj sameRest).2⟩

end Bracketed

/-! ## Coordinates -/

variable {value other coordinates coordinates' : Json} {text otherText rest otherRest : List Char}
  {levels : Nat}

theorem OrdinateText.isNumeral (isText : OrdinateText value text) : IsNumeral text := by
  rcases isText with ⟨ordinate, -, rfl⟩
  exact isNumeral_ordinateText ordinate

theorem OrdinateText.ordinate? (isText : OrdinateText value text) :
    GeoJson.ordinate? value = some (String.ofList text) := by
  rcases isText with ⟨ordinate, isOrdinate, rfl⟩
  simp [GeoJson.ordinate?, isOrdinate]

theorem isNumeralChar_of_mem_closers : ∀ c ∈ closers, isNumeralChar c = false :=
  List.forall_mem_cons.2 ⟨rfl, List.forall_mem_singleton.2 rfl⟩

theorem readsBack_ordinate (isText : OrdinateText value text) :
    ReadsBack OrdinateText (fun value other => GeoJson.ordinate? value = GeoJson.ordinate? other)
      (StartsIn (' ' :: closers)) value text := by
  have noNumeral : ∀ c ∈ ' ' :: closers, isNumeralChar c = false :=
    List.forall_mem_cons.2 ⟨rfl, isNumeralChar_of_mem_closers⟩
  have stopped : ∀ rest, StartsIn (' ' :: closers) rest →
      ∀ c ∈ rest.head?, isNumeralChar c = false := by
    rintro _ ⟨stop, rest, isStop, rfl⟩ c isHead
    cases isHead
    exact noNumeral stop isStop
  intro other otherText rest otherRest isOther ends otherEnds same
  rcases append_inj_of_stops isText.isNumeral.numeralChars isOther.isNumeral.numeralChars
    (stopped rest ends) (stopped otherRest otherEnds) same with ⟨rfl, sameRest⟩
  exact ⟨isText.ordinate?.trans isOther.ordinate?.symm, sameRest⟩

/-- A numeral does not begin with a character that ends one. -/
theorem OrdinateText.not_startsIn (isText : OrdinateText value text) :
    ¬StartsIn closers (text ++ rest) := by
  rintro ⟨c, more, isCloser, same⟩
  rcases List.exists_cons_of_ne_nil isText.isNumeral.nonempty with ⟨first, others, rfl⟩
  cases same
  have numeral := isText.isNumeral.numeralChars c List.mem_cons_self
  rw [isNumeralChar_of_mem_closers c isCloser] at numeral
  cases numeral

theorem readsBack_position (isText : PositionText value text) :
    ReadsBack PositionText (SameCoordinates 0) (StartsIn closers) value text := by
  rcases isText with ⟨ordinates, texts, rfl, -, areTexts, rfl⟩
  rintro other otherText rest otherRest ⟨ordinates', texts', rfl, -, areTexts', rfl⟩ ends otherEnds
    same
  have readBack := areTexts.imp fun _ _ isText => readsBack_ordinate isText
  have notCloser : ' ' ∉ closers := by decide
  rcases forall₂_of_intercalate notCloser areTexts readBack areTexts'
    OrdinateText.not_startsIn ends otherEnds same with ⟨sameOrdinates, sameRest⟩
  refine ⟨⟨ordinates, ordinates', rfl, rfl, ?_⟩, sameRest⟩
  rw [← List.forall₂_eq_eq_eq, List.forall₂_map_left_iff, List.forall₂_map_right_iff]
  exact sameOrdinates

theorem PositionText.not_startsIn (isText : PositionText value text) :
    ¬StartsIn [')'] (text ++ rest) := by
  rcases isText with ⟨ordinates, texts, rfl, enough, areTexts, rfl⟩
  cases ordinates with
  | nil => exact absurd enough (by decide)
  | cons first ordinates =>
    rw [List.take_succ_cons, List.forall₂_cons_left_iff] at areTexts
    rcases areTexts with ⟨text, texts, isText, -, rfl⟩
    rw [intercalate_cons, List.append_assoc]
    rintro ⟨c, more, isCloser, same⟩
    exact isText.not_startsIn ⟨c, more, List.mem_cons_of_mem _ isCloser, same⟩

/-- Neither the text of a position nor a list in brackets begins with a closing bracket. -/
theorem CoordinatesText.not_startsIn (isText : CoordinatesText levels value text) :
    ¬StartsIn [')'] (text ++ rest) := by
  cases levels with
  | zero => exact PositionText.not_startsIn isText
  | succ levels =>
    rcases isText with ⟨items, texts, rfl, -, rfl⟩
    rintro ⟨c, more, isCloser, same⟩
    cases same
    exact absurd isCloser (by decide)

theorem readsBack_lists
    (inner : ∀ item text, CoordinatesText levels item text →
      ReadsBack (CoordinatesText levels) (SameCoordinates levels) (StartsIn closers) item text)
    (isText : CoordinatesText (levels + 1) value text) :
    ReadsBack (CoordinatesText (levels + 1)) (SameCoordinates (levels + 1)) (fun _ => True)
      value text := by
  rcases isText with ⟨items, texts, rfl, areTexts, rfl⟩
  rintro other otherText rest otherRest ⟨items', texts', rfl, areTexts', rfl⟩ - - same
  rcases forall₂_of_bracketed areTexts (areTexts.imp inner) areTexts' CoordinatesText.not_startsIn
    same with ⟨sameItems, sameRest⟩
  exact ⟨⟨items, items', rfl, rfl, sameItems⟩, sameRest⟩

theorem readsBack_coordinates (isText : CoordinatesText levels value text) :
    ReadsBack (CoordinatesText levels) (SameCoordinates levels) (StartsIn closers) value text := by
  induction levels generalizing value text with
  | zero => exact readsBack_position isText
  | succ levels ih =>
    exact (readsBack_lists (fun _ _ => ih) isText).followed _

theorem sameCoordinates_empty (levels : Nat) :
    SameCoordinates levels (.array []) (.array []) := by
  cases levels with
  | zero => exact ⟨[], [], rfl, rfl, rfl⟩
  | succ levels => exact ⟨[], [], rfl, rfl, .nil⟩

theorem empty_ne_bracketed (texts : List (List Char)) (rest otherRest : List Char) :
    "EMPTY".toList ++ rest ≠ bracketed texts ++ otherRest := by
  simp [bracketed]

theorem readsBack_body (hasBody : BodyText levels value text) :
    ReadsBack (BodyText levels) (SameCoordinates levels) (fun _ => True) value text := by
  intro other otherText rest otherRest hasOther _ _ same
  cases hasBody with
  | empty =>
    cases hasOther with
    | empty => exact ⟨sameCoordinates_empty levels, List.append_cancel_left same⟩
    | position _ => exact absurd same (empty_ne_bracketed _ _ _)
    | lists _ isText =>
      rcases isText with ⟨items, texts, rfl, -, rfl⟩
      exact absurd same (empty_ne_bracketed _ _ _)
  | position isPosition =>
    cases hasOther with
    | empty => exact absurd same.symm (empty_ne_bracketed _ _ _)
    | @position _ otherText isOther =>
      have alone : List.Forall₂ PositionText [value] [_] := .cons isPosition .nil
      have otherAlone : List.Forall₂ PositionText [other] [otherText] := .cons isOther .nil
      have readBack := alone.imp fun _ _ => readsBack_position
      rcases forall₂_of_bracketed alone readBack otherAlone PositionText.not_startsIn same
        with ⟨samePositions, sameRest⟩
      exact ⟨(List.forall₂_cons.1 samePositions).1, sameRest⟩
  | lists _ isText =>
    cases hasOther with
    | empty =>
      rcases isText with ⟨items, texts, rfl, -, rfl⟩
      exact absurd same.symm (empty_ne_bracketed _ _ _)
    | lists _ isOther =>
      exact readsBack_lists (fun _ _ => readsBack_coordinates) isText isOther trivial trivial same

/-! ## Geometries -/

theorem tag_injective {shape shape' : Shape} (same : shape.tag = shape'.tag) : shape = shape' := by
  cases shape <;> cases shape' <;> first | rfl | exact absurd same (by decide)

theorem tag_ne_collection (shape : Shape) : shape.tag ≠ "GEOMETRYCOLLECTION" := by
  cases shape <;> decide

def allTags : List String :=
  ["GEOMETRYCOLLECTION", "POINT", "LINESTRING", "MULTIPOINT", "POLYGON", "MULTILINESTRING",
    "MULTIPOLYGON"]

theorem tag_mem_allTags (shape : Shape) : shape.tag ∈ allTags := by
  cases shape <;> decide

/-- A tag ends at the blank behind it. -/
theorem tag_inj {tag otherTag : String} (isTag : tag ∈ allTags) (isOther : otherTag ∈ allTags)
    (same : tag.toList ++ ' ' :: text = otherTag.toList ++ ' ' :: otherText) :
    tag = otherTag ∧ text = otherText := by
  have inside : ∀ tag ∈ allTags, ∀ c ∈ tag.toList, (c != ' ') = true := by
    simp only [← List.all_eq_true]
    decide
  have stops : ∀ text : List Char, ∀ c ∈ (' ' :: text).head?, (c != ' ') = false := by simp
  rcases append_inj_of_stops (inside tag isTag) (inside otherTag isOther) (stops text)
    (stops otherText) same with ⟨sameTag, sameText⟩
  exact ⟨String.toList_inj.1 sameTag, (List.cons.inj sameText).2⟩

theorem not_startsIn_tagged {tag : String} (isTag : tag ∈ allTags) :
    ¬StartsIn [')'] (tag.toList ++ ' ' :: text ++ rest) := by
  have first : ∀ tag ∈ allTags, tag.toList.head?.any (· != ')') = true := by decide
  rintro ⟨c, more, isCloser, same⟩
  have isFirst := first tag isTag
  cases chars : tag.toList with
  | nil => simp [chars] at isFirst
  | cons c' chars' =>
    rw [chars] at same isFirst
    cases same
    rw [List.mem_singleton.1 isCloser] at isFirst
    exact absurd isFirst (by simp)

theorem HasWkt.not_startsIn (hasWkt : HasWkt value text) : ¬StartsIn [')'] (text ++ rest) := by
  induction hasWkt with
  | wrapped _ _ ih => exact ih
  | shaped _ _ => exact not_startsIn_tagged (tag_mem_allTags _)
  | collection _ _ _ _ => exact not_startsIn_tagged (by decide)

theorem forall₂_of_partsText {items others : List Json} {texts otherTexts : List (List Char)}
    (haveTexts : List.Forall₂ HasWkt items texts)
    (readBack : List.Forall₂ (ReadsBack HasWkt SameGeometry fun _ => True) items texts)
    (otherItems : List.Forall₂ HasWkt others otherTexts)
    (same : partsText texts ++ rest = partsText otherTexts ++ otherRest) :
    List.Forall₂ SameGeometry items others ∧ rest = otherRest := by
  have readBackHere : List.Forall₂ (ReadsBack HasWkt SameGeometry (StartsIn closers)) items texts :=
    readBack.imp fun _ _ readsBack => readsBack.followed _
  cases texts with
  | nil =>
    cases otherTexts with
    | nil =>
      rw [List.forall₂_nil_right_iff] at haveTexts otherItems
      subst haveTexts otherItems
      exact ⟨.nil, List.append_cancel_left same⟩
    | cons _ _ => exact absurd same (empty_ne_bracketed _ _ _)
  | cons _ _ =>
    cases otherTexts with
    | nil => exact absurd same.symm (empty_ne_bracketed _ _ _)
    | cons _ _ => exact forall₂_of_bracketed haveTexts readBackHere otherItems HasWkt.not_startsIn same

theorem readsBack_hasWkt (hasWkt : HasWkt value text) :
    ReadsBack HasWkt SameGeometry (fun _ => True) value text := by
  induction hasWkt with
  | wrapped wraps _ ih =>
    intro other otherText rest otherRest hasOther _ _ same
    rcases ih hasOther trivial trivial same with ⟨sameGeometry, sameRest⟩
    exact ⟨.wrapped wraps sameGeometry, sameRest⟩
  | shaped isShaped hasBody =>
    intro other otherText rest otherRest hasOther _ _ same
    induction hasOther with
    | wrapped wraps _ ih =>
      rcases ih same with ⟨sameGeometry, sameRest⟩
      exact ⟨.wrappedOther wraps sameGeometry, sameRest⟩
    | shaped isShaped' hasBody' =>
      simp only [List.append_assoc, List.cons_append] at same
      rcases tag_inj (tag_mem_allTags _) (tag_mem_allTags _) same with ⟨sameTag, sameBody⟩
      cases tag_injective sameTag
      rcases readsBack_body hasBody hasBody' trivial trivial sameBody with ⟨sameInner, sameRest⟩
      exact ⟨.shaped isShaped isShaped' sameInner, sameRest⟩
    | collection _ _ _ _ =>
      simp only [List.append_assoc, List.cons_append] at same
      exact absurd (tag_inj (tag_mem_allTags _) (by decide) same).1 (tag_ne_collection _)
  | collection isCollection sameLength haveWkt ih =>
    intro other otherText rest otherRest hasOther _ _ same
    induction hasOther with
    | wrapped wraps _ ih =>
      rcases ih same with ⟨sameGeometry, sameRest⟩
      exact ⟨.wrappedOther wraps sameGeometry, sameRest⟩
    | shaped _ _ =>
      simp only [List.append_assoc, List.cons_append] at same
      exact absurd (tag_inj (by decide) (tag_mem_allTags _) same).1.symm (tag_ne_collection _)
    | collection isCollection' sameLength' haveWkt' _ =>
      simp only [List.append_assoc, List.cons_append] at same
      have sameParts := (tag_inj (by decide) (by decide) same).2
      have haveTexts := List.forall₂_iff_zip.2 ⟨sameLength, fun isPair => haveWkt _ isPair⟩
      have readBack := List.forall₂_iff_zip.2 ⟨sameLength, fun isPair => ih _ isPair⟩
      have haveTexts' := List.forall₂_iff_zip.2 ⟨sameLength', fun isPair => haveWkt' _ isPair⟩
      rcases forall₂_of_partsText haveTexts readBack haveTexts' sameParts
        with ⟨sameItems, sameRest⟩
      rcases List.forall₂_iff_zip.1 sameItems with ⟨sameNumber, each⟩
      exact ⟨.collection isCollection isCollection' sameNumber fun _ => each, sameRest⟩

end Wkt

namespace Geometry

open Wkt GeoJson

/-- Values that are written with the same text are the same geometry. -/
theorem sameGeometry_of_toWkt_eq {value other : Json} {geometry otherGeometry : Geometry}
    (read : Geometry.ofGeoJson value = .ok geometry)
    (readOther : Geometry.ofGeoJson other = .ok otherGeometry)
    (sameText : geometry.toWkt = otherGeometry.toWkt) : SameGeometry value other := by
  have sameChars : geometry.toWkt.toList ++ [] = otherGeometry.toWkt.toList ++ [] := by
    rw [sameText]
  exact (readsBack_hasWkt (hasWkt_of_ofGeoJson read) (hasWkt_of_ofGeoJson readOther) trivial trivial
    sameChars).1

def track : Json :=
  .object [("type", .string "LineString"), ("coordinates", .array [
    .array [.number (.integer 1), .number (.integer 2), .number (.integer 3),
      .number (.integer 4)],
    .array [.number (.integer (-5)), .number (.integer 6)]])]

/-- The same track inside a feature, with doubles for integers and another fourth ordinate. -/
def trackFeature : Json :=
  .object [("type", .string "Feature"), ("geometry", .object [("type", .string "LineString"),
    ("coordinates", .array [
      .array [.number (.double ⟨false, 4, -2⟩), .number (.integer 2), .number (.integer 3), .null],
      .array [.number (.double ⟨true, 5, 0⟩), .number (.integer 6)]])])]

theorem sameGeometry_track :
    ∃ geometry otherGeometry, Geometry.ofGeoJson track = .ok geometry ∧
      Geometry.ofGeoJson trackFeature = .ok otherGeometry ∧
      geometry.toWkt = otherGeometry.toWkt ∧ SameGeometry track trackFeature := by
  let geometry : Geometry := .shaped .lineString (.list [
    .position [Double.ofInt 1, Double.ofInt 2, Double.ofInt 3],
    .position [Double.ofInt (-5), Double.ofInt 6]])
  let otherGeometry : Geometry := .shaped .lineString (.list [
    .position [⟨false, 4, -2⟩, Double.ofInt 2, Double.ofInt 3],
    .position [⟨true, 5, 0⟩, Double.ofInt 6]])
  have read : Geometry.ofGeoJson track = .ok geometry := by
    rw [Geometry.ofGeoJson.eq_def]
    rfl
  have readOther : Geometry.ofGeoJson trackFeature = .ok otherGeometry := by
    rw [Geometry.ofGeoJson.eq_def]
    change Geometry.ofGeoJson _ = _
    rw [Geometry.ofGeoJson.eq_def]
    rfl
  have sameText : geometry.toWkt = otherGeometry.toWkt := by
    decide +kernel
  exact ⟨geometry, otherGeometry, read, readOther, sameText,
    sameGeometry_of_toWkt_eq read readOther sameText⟩

end Geometry

end SearchSql
