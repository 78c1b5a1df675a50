import SearchSql.Geometry.GeoJson
import SearchSql.Proofs.Geometry.Ordinates
import Mathlib.Data.List.Forall2

/-!
# The text that a GeoJSON value has

`HasWkt` relates a GeoJSON value to its Well-Known Text, without the geometry that stands between
them when the value is read and then written: the words of the value on one side (its type, its
coordinates, its geometries), a tag and bracketed lists on the other. `hasWkt_of_ofGeoJson` says
that reading and writing give a text that the value has. What is to be known about the texts of all
values is then proved by induction on the relation.
-/

namespace SearchSql

namespace GeoJson

/-- The value is an object whose type is that word. -/
def HasType (value : Json) (name : String) : Prop := value.member? "type" = some (.string name)

/-- A feature stands for its geometry, and a collection of a single feature for that feature. -/
inductive Wraps : Json → Json → Prop
  | feature {value inner : Json} (isFeature : HasType value "Feature")
      (isGeometry : value.member? "geometry" = some inner) : Wraps value inner
  | only {value inner : Json} (isCollection : HasType value "FeatureCollection")
      (isOnly : value.member? "features" = some (.array [inner])) : Wraps value inner

/-- A geometry that has coordinates. -/
structure IsShaped (value : Json) (shape : Shape) (coordinates : Json) : Prop where
  shape : ∃ name, HasType value name ∧ Shape.ofName? name = some shape
  coordinates : value.member? "coordinates" = some coordinates

/-- A geometry that has other geometries. -/
structure IsCollection (value : Json) (items : List Json) : Prop where
  isCollection : HasType value "GeometryCollection"
  items : value.member? "geometries" = some (.array items)

end GeoJson

namespace Wkt

open GeoJson

def bracketed (texts : List (List Char)) : List Char :=
  '(' :: ([',', ' '].intercalate texts ++ [')'])

def OrdinateText (value : Json) (text : List Char) : Prop :=
  ∃ ordinate, value.asDouble? = some ordinate ∧ text = (ordinateText ordinate).toList

/-- Of a position, the first three ordinates are written. -/
def PositionText (value : Json) (text : List Char) : Prop :=
  ∃ ordinates texts, value = .array ordinates ∧ 2 ≤ ordinates.length ∧
    List.Forall₂ OrdinateText (ordinates.take 3) texts ∧ text = [' '].intercalate texts

/-- Coordinates with a number of levels of lists above their positions. -/
def CoordinatesText : Nat → Json → List Char → Prop
  | 0, value, text => PositionText value text
  | levels + 1, value, text =>
    ∃ items texts, value = .array items ∧ List.Forall₂ (CoordinatesText levels) items texts ∧
      text = bracketed texts

/-- What stands behind the tag of a shape. -/
inductive BodyText : Nat → Json → List Char → Prop
  | empty {levels : Nat} : BodyText levels (.array []) "EMPTY".toList
  | position {value : Json} {text : List Char} (isPosition : PositionText value text) :
      BodyText 0 value (bracketed [text])
  | lists {levels : Nat} {value : Json} {text : List Char} (filled : value ≠ .array [])
      (isText : CoordinatesText (levels + 1) value text) : BodyText (levels + 1) value text

/-- What stands behind the tag of a collection. -/
def partsText : List (List Char) → List Char
  | [] => "EMPTY".toList
  | text :: texts => bracketed (text :: texts)

inductive HasWkt : Json → List Char → Prop
  | wrapped {value inner : Json} {text : List Char} (wraps : Wraps value inner)
      (hasWkt : HasWkt inner text) : HasWkt value text
  | shaped {value coordinates : Json} {shape : Shape} {text : List Char}
      (isShaped : IsShaped value shape coordinates)
      (hasBody : BodyText shape.depth coordinates text) :
      HasWkt value (shape.tag.toList ++ ' ' :: text)
  | collection {value : Json} {items : List Json} {texts : List (List Char)}
      (isCollection : IsCollection value items) (sameLength : items.length = texts.length)
      (haveWkt : ∀ pair ∈ items.zip texts, HasWkt pair.1 pair.2) :
      HasWkt value ("GEOMETRYCOLLECTION".toList ++ ' ' :: partsText texts)

end Wkt

namespace GeometryError

variable {α β : Type}

theorem map_eq_ok_iff {first : Except GeometryError α} {next : α → β} {result : β} :
    first.map next = .ok result ↔ ∃ value, first = .ok value ∧ next value = result := by
  cases first <;> simp [Except.map]

/-- What is made of each item, when something is made of all of them. -/
theorem forall₂_of_mapM {make : α → Except GeometryError β} {items : List α} {results : List β}
    (made : items.mapM make = .ok results) :
    List.Forall₂ (fun item result => make item = .ok result) items results := by
  induction items generalizing results with
  | nil =>
    cases made
    exact .nil
  | cons item items ih =>
    rw [List.mapM_cons] at made
    cases here : make item with
    | error error =>
      rw [here] at made
      cases made
    | ok result =>
      cases later : items.mapM make with
      | error error =>
        rw [here, later] at made
        cases made
      | ok rest =>
        rw [here, later] at made
        cases made
        exact .cons here (ih later)

end GeometryError

section Pairs

variable {α β : Type} {R : α → β → Prop} {items : List α} {others : List β}

theorem forall₂_mem_zip (sameLength : items.length = others.length) :
    List.Forall₂ (fun item other => (item, other) ∈ items.zip others) items others :=
  List.forall₂_iff_zip.2 ⟨sameLength, id⟩

theorem exists_of_mem_right (pairs : List.Forall₂ R items others) {other : β}
    (isOther : other ∈ others) : ∃ item ∈ items, R item other := by
  induction pairs with
  | nil => cases isOther
  | cons related _ ih =>
    rcases List.mem_cons.1 isOther with rfl | later
    · exact ⟨_, List.mem_cons_self, related⟩
    · rcases ih later with ⟨item, isItem, related⟩
      exact ⟨item, List.mem_cons_of_mem _ isItem, related⟩

theorem exists_of_mem_left (pairs : List.Forall₂ R items others) {item : α}
    (isItem : item ∈ items) : ∃ other ∈ others, R item other :=
  exists_of_mem_right (R := fun other item => R item other) pairs.flip isItem

end Pairs

open Wkt GeoJson GeometryError

theorem Coordinates.texts_eq_map (items : List Coordinates) :
    Coordinates.texts items = items.map Coordinates.text := by
  induction items with
  | nil => rfl
  | cons item rest ih => rw [Coordinates.texts, ih, List.map_cons]

theorem Geometry.allToWkt_eq_map (parts : List Geometry) :
    Geometry.allToWkt parts = parts.map Geometry.toWkt := by
  induction parts with
  | nil => rfl
  | cons part rest ih => rw [Geometry.allToWkt, ih, List.map_cons]

/-!
The equations of the writer come from its unfolding as a whole, because the texts of the branches
are too long to be compared one by one.
-/

theorem Geometry.toList_toWkt_empty (shape : Shape) :
    (Geometry.empty shape).toWkt.toList = shape.tag.toList ++ ' ' :: "EMPTY".toList := by
  rw [Geometry.toWkt.eq_def, String.toList_append]
  simp

theorem Geometry.toList_toWkt_shaped (shape : Shape) (coordinates : Coordinates) :
    (Geometry.shaped shape coordinates).toWkt.toList =
      shape.tag.toList ++ ' ' :: coordinates.bracketedText.toList := by
  rw [Geometry.toWkt.eq_def, String.toList_append, String.toList_append]
  simp

theorem toList_bracketedList (texts : List String) :
    (bracketedList texts).toList = bracketed (texts.map String.toList) := by
  simp [bracketedList, bracketed]

theorem Geometry.toList_toWkt_collection (parts : List Geometry) :
    (Geometry.collection parts).toWkt.toList =
      "GEOMETRYCOLLECTION".toList ++ ' ' :: partsText (parts.map fun part => part.toWkt.toList) := by
  cases parts with
  | nil =>
    rw [Geometry.toWkt.eq_def]
    simp [partsText]
  | cons part parts =>
    rw [Geometry.toWkt.eq_def, String.toList_append, toList_bracketedList,
      Geometry.allToWkt_eq_map]
    simp [partsText, Function.comp_def]

/-- A number of levels at which nothing but a list is read. -/
theorem Coordinates.exists_array_of_read {levels : Nat} {value : Json} {coordinates : Coordinates}
    (read : Coordinates.read (levels + 1) value = .ok coordinates) :
    ∃ items parts, value = .array items ∧ coordinates = .list parts ∧
      List.Forall₂ (fun item part => Coordinates.read levels item = .ok part) items parts := by
  rw [Coordinates.read] at read
  cases value with
  | array items =>
    rcases map_eq_ok_iff.1 read with ⟨parts, areParts, rfl⟩
    exact ⟨items, parts, rfl, rfl, forall₂_of_mapM areParts⟩
  | _ => cases read

theorem Coordinates.positionText_of_read {value : Json} {coordinates : Coordinates}
    (read : Coordinates.readPosition value = .ok coordinates) :
    (∃ ordinates, coordinates = .position ordinates) ∧
      PositionText value coordinates.text.toList := by
  unfold Coordinates.readPosition at read
  cases value with
  | array items =>
    simp only [Json.asArray?] at read
    split at read
    next enough =>
      rcases map_eq_ok_iff.1 read with ⟨ordinates, areOrdinates, rfl⟩
      refine ⟨⟨ordinates, rfl⟩, items, (ordinates.map ordinateText).map String.toList, rfl, enough,
        ?_, by simp [Coordinates.text]⟩
      rw [List.map_map, List.forall₂_map_right_iff]
      refine (forall₂_of_mapM areOrdinates).imp fun item ordinate isOrdinate => ⟨ordinate, ?_, rfl⟩
      unfold Coordinates.readOrdinate at isOrdinate
      split at isOrdinate
      next found =>
        cases isOrdinate
        exact found
      · cases isOrdinate
    · cases read
  | _ => cases read

theorem Coordinates.coordinatesText_of_read {levels : Nat} {value : Json}
    {coordinates : Coordinates} (read : Coordinates.read levels value = .ok coordinates) :
    CoordinatesText levels value coordinates.text.toList := by
  induction levels generalizing value coordinates with
  | zero => exact (positionText_of_read read).2
  | succ levels ih =>
    rcases exists_array_of_read read with ⟨items, parts, rfl, rfl, areParts⟩
    refine ⟨items, parts.map fun part => part.text.toList, rfl, ?_, ?_⟩
    · rw [List.forall₂_map_right_iff]
      exact areParts.imp fun item part => ih
    · rw [Coordinates.text, toList_bracketedList, Coordinates.texts_eq_map, List.map_map]
      rfl

theorem Coordinates.bodyText_of_read {levels : Nat} {value : Json} {coordinates : Coordinates}
    (filled : value ≠ .array []) (read : Coordinates.read levels value = .ok coordinates) :
    BodyText levels value coordinates.bracketedText.toList := by
  cases levels with
  | zero =>
    rcases positionText_of_read read with ⟨⟨ordinates, rfl⟩, isPosition⟩
    rw [Coordinates.bracketedText, toList_bracketedList]
    exact .position isPosition
  | succ levels =>
    have isText := coordinatesText_of_read read
    rcases exists_array_of_read read with ⟨items, parts, rfl, rfl, areParts⟩
    exact .lists filled isText

theorem Geometry.hasWkt_of_readShaped {value : Json} {name : String} {geometry : Geometry}
    (isType : HasType value name) (read : Geometry.readShaped name value = .ok geometry) :
    HasWkt value geometry.toWkt.toList := by
  unfold Geometry.readShaped at read
  split at read
  · cases read
  next coordinates isCoordinates =>
    split at read
    · cases read
    next shape isShape =>
      have isShaped : IsShaped value shape coordinates := ⟨⟨name, isType, isShape⟩, isCoordinates⟩
      split at read
      next isEmpty =>
        cases read
        have nothing : coordinates = .array [] := by
          cases coordinates with
          | array items => simpa [Json.asArray?] using isEmpty
          | _ => simp [Json.asArray?] at isEmpty
        rw [Geometry.toList_toWkt_empty]
        exact .shaped isShaped (nothing ▸ .empty)
      next filled =>
        rcases map_eq_ok_iff.1 read with ⟨inner, isRead, rfl⟩
        have notEmpty : coordinates ≠ .array [] := by
          rintro rfl
          exact filled rfl
        rw [Geometry.toList_toWkt_shaped]
        exact .shaped isShaped (Coordinates.bodyText_of_read notEmpty isRead)

theorem GeoJson.hasType_of_bind {value : Json} {name : String}
    (isType : (value.member? "type").bind Json.asText? = some name) : HasType value name := by
  rcases Option.bind_eq_some_iff.1 isType with ⟨inner, isMember, isText⟩
  rw [HasType, isMember, Json.asText?_eq_some_iff.1 isText]

theorem Geometry.ofGeoJson_of_isCollection {value : Json} {items : List Json}
    (isCollection : IsCollection value items) :
    Geometry.ofGeoJson value = (items.mapM Geometry.ofGeoJson).map .collection := by
  rw [Geometry.ofGeoJson.eq_def, isCollection.isCollection]
  simp only [Option.bind_some, Json.asText?]
  split
  next none =>
    rw [isCollection.items] at none
    cases none
  next array isItems =>
    rw [isCollection.items] at isItems
    cases isItems
    simp [Json.asArray?]

/-- What is written of a value that is read is a text of it. -/
theorem Geometry.hasWkt_of_ofGeoJson {value : Json} {geometry : Geometry}
    (read : Geometry.ofGeoJson value = .ok geometry) : HasWkt value geometry.toWkt.toList := by
  fun_induction Geometry.ofGeoJson value generalizing geometry with
  | case1 | case2 | case3 | case5 | case7 | case8 | case9 => cases read
  | case4 value isFeature inner isGeometry _ _ ih =>
    exact .wrapped (.feature (hasType_of_bind isFeature) isGeometry) (ih read)
  | case6 value isFeatures features isMember feature isOnly _ _ ih =>
    rw [Json.asArray?_eq_some_iff.1 isOnly] at isMember
    exact .wrapped (.only (hasType_of_bind isFeatures) isMember) (ih read)
  | case10 value isCollection geometries isMember items areItems _ _ ih =>
    rw [Json.asArray?_eq_some_iff.1 areItems] at isMember
    rcases map_eq_ok_iff.1 read with ⟨parts, areParts, rfl⟩
    have written := (forall₂_of_mapM areParts).imp fun item part => ih item
    have eachWritten : List.Forall₂ HasWkt items (parts.map fun part => part.toWkt.toList) := by
      rw [← List.attach_map_subtype_val items, List.forall₂_map_left_iff,
        List.forall₂_map_right_iff]
      exact written
    rcases List.forall₂_iff_zip.1 eachWritten with ⟨sameLength, haveWkt⟩
    rw [toList_toWkt_collection]
    exact .collection ⟨hasType_of_bind isCollection, isMember⟩ sameLength fun _ => haveWkt
  | case11 value name _ _ _ isType => exact hasWkt_of_readShaped (hasType_of_bind isType) read

end SearchSql
