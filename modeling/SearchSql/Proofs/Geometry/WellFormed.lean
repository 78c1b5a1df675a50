import SearchSql.Proofs.Geometry.Written
import Mathlib.Data.List.Chain

/-!
# Well-formed texts of geometries

`Wkt.IsGeometry` is the grammar of Well-Known Text: a tag, and `EMPTY` or as many levels of
brackets as the tag requires, none of them without an element. The text that a GeoJSON value has is
of this grammar exactly when no list between the top of coordinates and their positions is empty
(`GeoJson.Hollow`), because only the top itself is written as `EMPTY`.

A filled value has a text of the grammar by induction on how the text comes about. For a hollow one
it is enough to look at neighbouring characters: its text has a closing bracket right behind an
opening one, and no text of the grammar does (`Wkt.Packed`).
-/

namespace SearchSql

namespace Wkt

/-- Two or three numerals. -/
def IsPosition (text : List Char) : Prop :=
  ∃ ordinates, (List.length ordinates = 2 ∨ ordinates.length = 3) ∧
    (∀ ordinate ∈ ordinates, IsNumeral ordinate) ∧ text = [' '].intercalate ordinates

/-- Positions inside a number of levels of brackets, each with at least one element. -/
def IsNested : Nat → List Char → Prop
  | 0, text => IsPosition text
  | levels + 1, text =>
    ∃ items, items ≠ [] ∧ (∀ item ∈ items, IsNested levels item) ∧ text = bracketed items

/-- The tags of lists with the levels of brackets that they require. -/
def listTags : List (String × Nat) :=
  [("LINESTRING", 1), ("MULTIPOINT", 1), ("POLYGON", 2), ("MULTILINESTRING", 2),
    ("MULTIPOLYGON", 3)]

def geometryTags : List String := "POINT" :: "GEOMETRYCOLLECTION" :: listTags.map (·.1)

inductive IsGeometry : List Char → Prop
  | empty {tag : String} (isTag : tag ∈ geometryTags) :
      IsGeometry (tag.toList ++ ' ' :: "EMPTY".toList)
  | point {text : List Char} (isPosition : IsPosition text) :
      IsGeometry ("POINT".toList ++ ' ' :: bracketed [text])
  | lists {tag : String} {levels : Nat} {text : List Char} (isTag : (tag, levels) ∈ listTags)
      (isNested : IsNested levels text) : IsGeometry (tag.toList ++ ' ' :: text)
  | collection {parts : List (List Char)} (filled : parts ≠ [])
      (areGeometries : ∀ part ∈ parts, IsGeometry part) :
      IsGeometry ("GEOMETRYCOLLECTION".toList ++ ' ' :: bracketed parts)

end Wkt

namespace GeoJson

/-- Between the top of the coordinates and their positions there is an empty list. -/
def HoldsEmptyList : Nat → Json → Prop
  | levels + 2, value =>
    ∃ items, value = .array items ∧
      ∃ item ∈ items, item = .array [] ∨ HoldsEmptyList (levels + 1) item
  | _, _ => False

/-- A geometry with such a list, or one that holds or stands for such a geometry. -/
inductive Hollow : Json → Prop
  | wrapped {value inner : Json} (wraps : Wraps value inner) (hollow : Hollow inner) : Hollow value
  | shaped {value coordinates : Json} {shape : Shape} (isShaped : IsShaped value shape coordinates)
      (holds : HoldsEmptyList shape.depth coordinates) : Hollow value
  | part {value item : Json} {items : List Json} (isCollection : IsCollection value items)
      (isItem : item ∈ items) (hollow : Hollow item) : Hollow value

/-! ## A value is a geometry in one way only -/

variable {value inner inner' coordinates coordinates' : Json} {shape shape' : Shape}
  {items items' : List Json} {name name' : String}

theorem HasType.unique (isType : HasType value name) (isType' : HasType value name') :
    name = name' :=
  Json.string.inj (Option.some.inj (isType.symm.trans isType'))

theorem Wraps.unique (wraps : Wraps value inner) (wraps' : Wraps value inner') :
    inner = inner' := by
  cases wraps with
  | feature isFeature isInner =>
    cases wraps' with
    | feature _ isInner' => exact Option.some.inj (isInner.symm.trans isInner')
    | only isCollection _ => exact absurd (isFeature.unique isCollection) (by decide)
  | only isCollection isInner =>
    cases wraps' with
    | feature isFeature _ => exact absurd (isFeature.unique isCollection) (by decide)
    | only _ isInner' =>
      have same := Option.some.inj (isInner.symm.trans isInner')
      simpa using same

theorem IsShaped.unique (isShaped : IsShaped value shape coordinates)
    (isShaped' : IsShaped value shape' coordinates') :
    shape = shape' ∧ coordinates = coordinates' := by
  rcases isShaped.shape with ⟨name, isType, isShape⟩
  rcases isShaped'.shape with ⟨name', isType', isShape'⟩
  cases isType.unique isType'
  exact ⟨Option.some.inj (isShape.symm.trans isShape'),
    Option.some.inj (isShaped.coordinates.symm.trans isShaped'.coordinates)⟩

theorem IsCollection.unique (isCollection : IsCollection value items)
    (isCollection' : IsCollection value items') : items = items' := by
  have same := Option.some.inj (isCollection.items.symm.trans isCollection'.items)
  simpa using same

theorem IsShaped.not_wraps (isShaped : IsShaped value shape coordinates) : ¬Wraps value inner := by
  rcases isShaped.shape with ⟨name, isType, isShape⟩
  rintro (⟨isWrapper, -⟩ | ⟨isWrapper, -⟩) <;> cases isType.unique isWrapper <;> cases isShape

theorem IsShaped.not_isCollection (isShaped : IsShaped value shape coordinates) :
    ¬IsCollection value items := by
  rcases isShaped.shape with ⟨name, isType, isShape⟩
  rintro ⟨isCollection, -⟩
  cases isType.unique isCollection
  cases isShape

theorem IsCollection.not_wraps (isCollection : IsCollection value items) : ¬Wraps value inner := by
  rintro (⟨isWrapper, -⟩ | ⟨isWrapper, -⟩) <;>
    exact absurd (isCollection.isCollection.unique isWrapper) (by decide)

theorem hollow_iff_of_wraps (wraps : Wraps value inner) : Hollow value ↔ Hollow inner := by
  refine ⟨fun hollow => ?_, .wrapped wraps⟩
  cases hollow with
  | wrapped wraps' hollow => exact wraps.unique wraps' ▸ hollow
  | shaped isShaped _ => exact absurd wraps isShaped.not_wraps
  | part isCollection _ _ => exact absurd wraps isCollection.not_wraps

theorem hollow_iff_of_isShaped (isShaped : IsShaped value shape coordinates) :
    Hollow value ↔ HoldsEmptyList shape.depth coordinates := by
  refine ⟨fun hollow => ?_, .shaped isShaped⟩
  cases hollow with
  | wrapped wraps _ => exact absurd wraps isShaped.not_wraps
  | shaped isShaped' holds =>
    rcases isShaped.unique isShaped' with ⟨rfl, rfl⟩
    exact holds
  | part isCollection _ _ => exact absurd isCollection isShaped.not_isCollection

theorem hollow_iff_of_isCollection (isCollection : IsCollection value items) :
    Hollow value ↔ ∃ item ∈ items, Hollow item := by
  refine ⟨fun hollow => ?_, fun ⟨_, isItem, hollow⟩ => .part isCollection isItem hollow⟩
  cases hollow with
  | wrapped wraps _ => exact absurd wraps isCollection.not_wraps
  | shaped isShaped _ => exact absurd isCollection isShaped.not_isCollection
  | part isCollection' isItem hollow =>
    cases isCollection.unique isCollection'
    exact ⟨_, isItem, hollow⟩

end GeoJson

namespace Wkt

open GeoJson

variable {value coordinates : Json} {text : List Char} {items : List (List Char)} {levels : Nat}

/-! ## Filled values have texts of the grammar -/

theorem isPosition_of_positionText (isText : PositionText value text) : IsPosition text := by
  rcases isText with ⟨ordinates, texts, rfl, enough, areTexts, rfl⟩
  refine ⟨texts, ?_, ?_, rfl⟩
  · rw [← areTexts.length_eq, List.length_take]
    omega
  · intro text isText
    rcases exists_of_mem_right areTexts isText with ⟨_, -, ordinate, -, rfl⟩
    exact isNumeral_ordinateText ordinate

theorem isNested_of_coordinatesText (filled : levels = 0 ∨ value ≠ .array [])
    (notHollow : ¬HoldsEmptyList levels value) (isText : CoordinatesText levels value text) :
    IsNested levels text := by
  induction levels generalizing value text with
  | zero => exact isPosition_of_positionText isText
  | succ levels ih =>
    rcases isText with ⟨items, texts, rfl, areTexts, rfl⟩
    have someItems : items ≠ [] := by
      rintro rfl
      exact filled.elim nofun (· rfl)
    refine ⟨texts, ?_, ?_, rfl⟩
    · rw [← List.length_pos_iff, ← areTexts.length_eq, List.length_pos_iff]
      exact someItems
    · intro text isText
      rcases exists_of_mem_right areTexts isText with ⟨item, isItem, isText⟩
      cases levels with
      | zero => exact ih (.inl rfl) not_false isText
      | succ levels =>
        refine ih (.inr ?_) ?_ isText
        · intro isEmpty
          exact notHollow ⟨items, rfl, item, isItem, .inl isEmpty⟩
        · intro holds
          exact notHollow ⟨items, rfl, item, isItem, .inr holds⟩

/-- A shape is a point, or its tag requires as many levels of brackets as it has lists. -/
theorem tag_cases (shape : Shape) :
    (shape.depth = 0 ∧ shape.tag = "POINT") ∨ (shape.tag, shape.depth) ∈ listTags := by
  cases shape <;> simp [Shape.depth, Shape.tag, listTags]

theorem isGeometry_of_bodyText {shape : Shape} {levels : Nat} (isDepth : shape.depth = levels)
    (notHollow : ¬HoldsEmptyList levels coordinates) (hasBody : BodyText levels coordinates text) :
    IsGeometry (shape.tag.toList ++ ' ' :: text) := by
  cases hasBody with
  | empty =>
    refine .empty ?_
    rcases tag_cases shape with ⟨-, isPoint⟩ | isList
    · rw [isPoint]
      exact List.mem_cons_self
    · exact List.mem_cons_of_mem _ (List.mem_cons_of_mem _ (List.mem_map_of_mem isList))
  | position isPosition =>
    rcases tag_cases shape with ⟨-, isPoint⟩ | isList
    · rw [isPoint]
      exact .point (isPosition_of_positionText isPosition)
    · rw [isDepth] at isList
      simp [listTags] at isList
  | lists filled isText =>
    rcases tag_cases shape with ⟨isZero, -⟩ | isList
    · exact absurd (isDepth.symm.trans isZero) (Nat.succ_ne_zero _)
    · rw [isDepth] at isList
      exact .lists isList (isNested_of_coordinatesText (.inr filled) notHollow isText)

theorem isGeometry_of_hasWkt (hasWkt : HasWkt value text) (notHollow : ¬Hollow value) :
    IsGeometry text := by
  induction hasWkt with
  | wrapped wraps _ ih => exact ih fun hollow => notHollow (.wrapped wraps hollow)
  | shaped isShaped hasBody =>
    exact isGeometry_of_bodyText rfl (fun holds => notHollow (.shaped isShaped holds)) hasBody
  | @collection value items texts isCollection sameLength _ ih =>
    have each : ∀ text ∈ texts, IsGeometry text := by
      intro text isText
      rcases exists_of_mem_right (forall₂_mem_zip sameLength) isText with ⟨item, isItem, isPair⟩
      exact ih _ isPair fun hollow => notHollow (.part isCollection isItem hollow)
    cases texts with
    | nil => exact .empty (by simp [geometryTags])
    | cons text texts => exact .collection (List.cons_ne_nil _ _) each

/-! ## Hollow values have texts with an empty pair of brackets -/

/-- No closing bracket stands right behind an opening one, not even after putting texts together. -/
structure Packed (text : List Char) : Prop where
  nonempty : text ≠ []
  opens : text.head? ≠ some ')'
  closes : text.getLast? ≠ some '('
  chain : text.IsChain fun c next => ¬(c = '(' ∧ next = ')')

theorem Packed.append {more : List Char} (packed : Packed text) (packedMore : Packed more) :
    Packed (text ++ more) where
  nonempty := List.append_ne_nil_of_left_ne_nil packed.nonempty more
  opens := by
    rw [List.head?_append_of_ne_nil _ packed.nonempty]
    exact packed.opens
  closes := by
    rw [List.getLast?_append_of_ne_nil _ packedMore.nonempty]
    exact packedMore.closes
  chain := by
    refine List.isChain_append.2 ⟨packed.chain, packedMore.chain, ?_⟩
    rintro _ isLast _ isFirst ⟨rfl, rfl⟩
    exact packed.closes isLast

theorem packed_of_plain (nonempty : text ≠ []) (plain : ∀ c ∈ text, c ≠ '(' ∧ c ≠ ')') :
    Packed text where
  nonempty := nonempty
  opens := fun isFirst => (plain _ (List.mem_of_mem_head? isFirst)).2 rfl
  closes := fun isLast => (plain _ (List.mem_of_getLast? isLast)).1 rfl
  chain := by
    refine List.Pairwise.isChain (List.pairwise_of_forall_mem_list ?_)
    rintro c isMember next - ⟨isOpen, -⟩
    exact (plain c isMember).1 isOpen

theorem packed_intercalate {separator : List Char} (packed : Packed separator)
    (nonempty : items ≠ []) (areItems : ∀ item ∈ items, Packed item) :
    Packed (separator.intercalate items) := by
  induction items with
  | nil => exact absurd rfl nonempty
  | cons item items ih =>
    rcases List.forall_mem_cons.1 areItems with ⟨here, later⟩
    cases items with
    | nil => simpa using here
    | cons next items =>
      rw [List.intercalate_cons_cons]
      exact (here.append packed).append (ih (List.cons_ne_nil _ _) later)

theorem packed_bracketed (nonempty : items ≠ []) (areItems : ∀ item ∈ items, Packed item) :
    Packed (bracketed items) := by
  have inner : Packed ([',', ' '].intercalate items) :=
    packed_intercalate (packed_of_plain (by simp) (by simp)) nonempty areItems
  refine ⟨List.cons_ne_nil _ _, by simp [bracketed], ?_, ?_⟩
  · rw [bracketed, ← List.cons_append, List.getLast?_concat]
    decide
  refine List.isChain_cons.2 ⟨?_, List.isChain_append.2 ⟨inner.chain, List.isChain_singleton _, ?_⟩⟩
  · rintro _ isFirst ⟨-, rfl⟩
    rw [List.head?_append_of_ne_nil _ inner.nonempty] at isFirst
    exact inner.opens isFirst
  · rintro _ isLast _ - ⟨rfl, -⟩
    exact inner.closes isLast

theorem packed_tagged {tag : String} (isTag : tag ∈ geometryTags) (packed : Packed text) :
    Packed (tag.toList ++ ' ' :: text) := by
  have word : Packed (tag.toList ++ [' ']) := by
    simp only [geometryTags, listTags, List.map_cons, List.map_nil, List.mem_cons,
      List.not_mem_nil, or_false] at isTag
    rcases isTag with rfl | rfl | rfl | rfl | rfl | rfl | rfl <;>
      exact packed_of_plain (by simp) (by simp)
  simpa using word.append packed

theorem IsNumeral.packed (isNumeral : IsNumeral text) : Packed text := by
  refine packed_of_plain isNumeral.nonempty fun c isMember => ?_
  have numeral := isNumeral.numeralChars c isMember
  constructor <;> rintro rfl <;> exact absurd numeral (by decide)

theorem IsPosition.packed (isPosition : IsPosition text) : Packed text := by
  rcases isPosition with ⟨ordinates, number, areNumerals, rfl⟩
  refine packed_intercalate (packed_of_plain (by simp) (by simp)) ?_
    fun ordinate isOrdinate => (areNumerals ordinate isOrdinate).packed
  rintro rfl
  simp at number

theorem IsNested.packed (isNested : IsNested levels text) : Packed text := by
  induction levels generalizing text with
  | zero => exact IsPosition.packed isNested
  | succ levels ih =>
    rcases isNested with ⟨items, nonempty, areNested, rfl⟩
    exact packed_bracketed nonempty fun item isItem => ih (areNested item isItem)

theorem IsGeometry.packed (isGeometry : IsGeometry text) : Packed text := by
  induction isGeometry with
  | empty isTag => exact packed_tagged isTag (packed_of_plain (by simp) (by simp))
  | point isPosition =>
    refine packed_tagged (by simp [geometryTags]) (packed_bracketed (by simp) ?_)
    simpa using isPosition.packed
  | lists isTag isNested =>
    refine packed_tagged ?_ isNested.packed
    exact List.mem_cons_of_mem _ (List.mem_cons_of_mem _ (List.mem_map_of_mem isTag))
  | collection filled _ ih =>
    exact packed_tagged (by simp [geometryTags]) (packed_bracketed filled ih)

/-- An opening bracket right before a closing one. -/
def emptyPair : List Char := ['(', ')']

theorem Packed.not_emptyPair (packed : Packed text) : ¬emptyPair <:+: text := by
  intro isInfix
  have chain := packed.chain.infix isInfix
  simp [emptyPair] at chain

theorem infix_bracketed {item : List Char} (isItem : item ∈ items) :
    item <:+: bracketed items := by
  have inner : item <:+: [',', ' '].intercalate items := by
    induction items with
    | nil => cases isItem
    | cons first items ih =>
      cases items with
      | nil =>
        have whole : [',', ' '].intercalate [first] = item := by
          rw [List.intercalate_singleton, List.mem_singleton.1 isItem]
        exact whole ▸ List.infix_rfl
      | cons next items =>
        rw [List.intercalate_cons_cons]
        rcases List.mem_cons.1 isItem with rfl | later
        · rw [List.append_assoc]
          exact List.infix_append [] _ _
        · exact (ih later).trans (List.suffix_append _ _).isInfix
  exact inner.trans (List.infix_append ['('] _ [')'])

theorem infix_partsText {part : List Char} (isPart : part ∈ items) : part <:+: partsText items := by
  cases items with
  | nil => cases isPart
  | cons item items => exact infix_bracketed isPart

theorem infix_tagged (tag : String) (text : List Char) : text <:+: tag.toList ++ ' ' :: text :=
  ((List.suffix_cons ' ' text).trans (List.suffix_append _ _)).isInfix

theorem emptyPair_of_coordinatesText (holds : HoldsEmptyList levels value)
    (isText : CoordinatesText levels value text) : emptyPair <:+: text := by
  induction levels generalizing value text with
  | zero => exact holds.elim
  | succ levels ih =>
    cases levels with
    | zero => exact holds.elim
    | succ levels =>
      rcases isText with ⟨items, texts, rfl, areTexts, rfl⟩
      rcases holds with ⟨_, ⟨⟩, item, isItem, isEmpty | deeper⟩
      · rcases exists_of_mem_left areTexts isItem with ⟨text, isText, inner, texts, rfl, none, rfl⟩
        cases isEmpty
        cases none
        exact infix_bracketed isText
      · rcases exists_of_mem_left areTexts isItem with ⟨text, isText, isInner⟩
        exact (ih deeper isInner).trans (infix_bracketed isText)

theorem emptyPair_of_bodyText (holds : HoldsEmptyList levels coordinates)
    (hasBody : BodyText levels coordinates text) : emptyPair <:+: text := by
  cases hasBody with
  | empty =>
    match levels, holds with
    | _ + 2, ⟨_, isArray, item, isItem, _⟩ =>
      cases isArray
      cases isItem
  | position _ => exact holds.elim
  | lists _ isText => exact emptyPair_of_coordinatesText holds isText

theorem emptyPair_of_hasWkt (hasWkt : HasWkt value text) (hollow : Hollow value) :
    emptyPair <:+: text := by
  induction hasWkt with
  | wrapped wraps _ ih => exact ih ((hollow_iff_of_wraps wraps).1 hollow)
  | shaped isShaped hasBody =>
    have holds := (hollow_iff_of_isShaped isShaped).1 hollow
    exact (emptyPair_of_bodyText holds hasBody).trans (infix_tagged _ _)
  | collection isCollection sameLength _ ih =>
    rcases (hollow_iff_of_isCollection isCollection).1 hollow with ⟨item, isItem, hollow⟩
    rcases exists_of_mem_left (forall₂_mem_zip sameLength) isItem with ⟨text, isText, isPair⟩
    exact ((ih _ isPair hollow).trans (infix_partsText isText)).trans (infix_tagged _ _)

end Wkt

namespace Geometry

open Wkt GeoJson

/--
A text that is written is well formed exactly when there is no empty list inside the coordinates
that it was read from.
-/
theorem isGeometry_toWkt_iff {value : Json} {geometry : Geometry}
    (read : Geometry.ofGeoJson value = .ok geometry) :
    IsGeometry geometry.toWkt.toList ↔ ¬Hollow value := by
  have hasWkt := hasWkt_of_ofGeoJson read
  constructor
  · intro isGeometry hollow
    exact isGeometry.packed.not_emptyPair (emptyPair_of_hasWkt hasWkt hollow)
  · exact isGeometry_of_hasWkt hasWkt

/-- A polygon with a ring of no positions is read, and written with an empty pair of brackets. -/
theorem not_isGeometry_of_bareRing :
    ∃ geometry, Geometry.ofGeoJson
      (.object [("type", .string "Polygon"), ("coordinates", .array [.array []])]) = .ok geometry ∧
    geometry.toWkt = "POLYGON (())" ∧ ¬IsGeometry geometry.toWkt.toList := by
  have isText : (Geometry.shaped .polygon (.list [.list []])).toWkt = "POLYGON (())" := by
    decide +kernel
  refine ⟨.shaped .polygon (.list [.list []]), ?_, isText, ?_⟩
  · rw [Geometry.ofGeoJson.eq_def]
    rfl
  · rw [isText]
    exact fun isGeometry => isGeometry.packed.not_emptyPair ⟨"POLYGON (".toList, [')'], by decide⟩

def stop : Json :=
  .object [("type", .string "Point"),
    ("coordinates", .array [.number (.integer (-7)), .number (.double ⟨false, 5, -1⟩)])]

def route : Json :=
  .object [("type", .string "MultiLineString"), ("coordinates", .array [.array [
    .array [.number (.integer 0), .number (.integer 0)],
    .array [.number (.integer 1), .number (.integer 0), .number (.integer 3)]]])]

/-- A point beside a line. -/
theorem isGeometry_of_stopAndRoute :
    let value : Json :=
      .object [("type", .string "GeometryCollection"), ("geometries", .array [stop, route])]
    ∃ geometry, Geometry.ofGeoJson value = .ok geometry ∧ ¬Hollow value ∧
      geometry.toWkt = "GEOMETRYCOLLECTION (POINT (-7 2.5), MULTILINESTRING ((0 0, 1 0 3)))" ∧
      IsGeometry geometry.toWkt.toList := by
  intro value
  let point : Geometry := .shaped .point (.position [Double.ofInt (-7), ⟨false, 5, -1⟩])
  let lines : Geometry := .shaped .multiLineString (.list [.list [
    .position [Double.ofInt 0, Double.ofInt 0],
    .position [Double.ofInt 1, Double.ofInt 0, Double.ofInt 3]]])
  have isStop : Geometry.ofGeoJson stop = .ok point := by
    rw [Geometry.ofGeoJson.eq_def]
    rfl
  have isRoute : Geometry.ofGeoJson route = .ok lines := by
    rw [Geometry.ofGeoJson.eq_def]
    rfl
  have isCollection : IsCollection value [stop, route] := ⟨rfl, rfl⟩
  have read : Geometry.ofGeoJson value = .ok (.collection [point, lines]) := by
    rw [Geometry.ofGeoJson_of_isCollection isCollection, List.mapM_cons, isStop, List.mapM_cons,
      isRoute]
    rfl
  have filled : ¬Hollow value := by
    have stopShaped : IsShaped stop .point _ := ⟨⟨"Point", rfl, rfl⟩, rfl⟩
    have routeShaped : IsShaped route .multiLineString _ := ⟨⟨"MultiLineString", rfl, rfl⟩, rfl⟩
    rw [hollow_iff_of_isCollection isCollection]
    simp [hollow_iff_of_isShaped stopShaped, hollow_iff_of_isShaped routeShaped, HoldsEmptyList,
      Shape.depth]
  exact ⟨_, read, filled, by decide +kernel, (isGeometry_toWkt_iff read).2 filled⟩

end Geometry

end SearchSql
