import SearchSql.Query.Prepare
import Mathlib.Data.List.Induction

/-!
# The first spatial predicate

Conditionals lead from the root of a predicate to other nodes of it. Where a node stands is told by
the sides that are taken on the way, and a walk through the tree that goes down before it goes to
the right visits the ways in lexicographic order. Preparing a predicate looks for the first way to
an `ST_INTERSECTS`: the node there becomes the engine's own, if its geometry can be written, and
nothing else ever changes.

The search is followed along the recursion of `Node.intersects?`. Below a conditional, the ways to
the left come before those to the right, so the first one is the first of the left side if that has
any (`firstIntersectsAt_left`), and else the first of the right (`firstIntersectsAt_right`).
-/

namespace SearchSql.Node

/-- The side on which the way leaves a conditional. -/
inductive Side
  | left
  | right

/-- The way from the root of a predicate to a node, from one conditional to the next. -/
abbrev Way := List Side

/-- Left comes before right. -/
inductive Side.Before : Side → Side → Prop
  | leftRight : Before .left .right

/--
A node comes before what is below it, and what is on the left side of a conditional comes before
what is on its right side.
-/
def Way.Before : Way → Way → Prop := List.Lex Side.Before

/-- The node that a way leads to. -/
def at? : Way → Node → Option Node
  | [], node => some node
  | .left :: way, .conditional _ left _ => left.at? way
  | .right :: way, .conditional _ _ right => right.at? way
  | _ :: _, _ => none

/-- The predicate with another node at the end of a way, and all else as it was. -/
def setAt : Way → Node → Node → Node
  | [], _, new => new
  | .left :: way, .conditional op left right, new => .conditional op (left.setAt way new) right
  | .right :: way, .conditional op left right, new => .conditional op left (right.setAt way new)
  | _ :: _, node, _ => node

/-- The way leads to an `ST_INTERSECTS` with these arguments. -/
def IntersectsAt (node : Node) (way : Way) (arguments : List Node) : Prop :=
  ∃ name, node.at? way = some (.call name arguments) ∧
    callsFunction "ST_INTERSECTS" (.call name arguments) = true

/-- The way leads to an `ST_INTERSECTS`, and no way that comes before it does. -/
structure FirstIntersectsAt (node : Node) (way : Way) (arguments : List Node) : Prop where
  found : node.IntersectsAt way arguments
  first : ∀ other otherArguments, node.IntersectsAt other otherArguments →
    other = way ∨ way.Before other

variable {node left right new found changed : Node} {op name text wkt : String} {way other : Way}
  {arguments arguments' : List Node}

theorem at?_cons_eq_none (side : Side) (way : Way)
    (noConditional : ∀ op left right, node ≠ .conditional op left right) :
    node.at? (side :: way) = none := by
  cases side <;> cases node <;> first | rfl | exact absurd rfl (noConditional _ _ _)

/-- Putting back what is there changes nothing. -/
theorem setAt_eq_self (isFound : node.at? way = some found) : node.setAt way found = node := by
  fun_induction at? way node with
  | case1 node => exact (Option.some.inj isFound).symm
  | case2 way op left right ih => rw [setAt, ih isFound]
  | case3 way op left right ih => rw [setAt, ih isFound]
  | case4 => cases isFound

/-- A call after the change is the new node, or was there before. -/
theorem at?_of_at?_setAt (isFound : node.at? way = some found)
    (isCall : (node.setAt way new).at? other = some (.call name arguments)) :
    (∃ rest, other = way ++ rest ∧ new.at? rest = some (.call name arguments)) ∨
      other ≠ way ∧ node.at? other = some (.call name arguments) := by
  fun_induction at? way node generalizing other with
  | case1 node => exact .inl ⟨other, rfl, isCall⟩
  | case2 way op left right ih =>
    rcases other with _ | ⟨_ | _, other⟩
    · cases isCall
    · rcases ih isFound isCall with ⟨rest, rfl, isNew⟩ | ⟨differs, isOld⟩
      · exact .inl ⟨rest, rfl, isNew⟩
      · exact .inr ⟨fun same => differs (List.cons.inj same).2, isOld⟩
    · exact .inr ⟨nofun, isCall⟩
  | case3 way op left right ih =>
    rcases other with _ | ⟨_ | _, other⟩
    · cases isCall
    · exact .inr ⟨nofun, isCall⟩
    · rcases ih isFound isCall with ⟨rest, rfl, isNew⟩ | ⟨differs, isOld⟩
      · exact .inl ⟨rest, rfl, isNew⟩
      · exact .inr ⟨fun same => differs (List.cons.inj same).2, isOld⟩
  | case4 => cases isFound

/-- Outside a conditional there is no way but the empty one. -/
theorem IntersectsAt.eq_self (found : node.IntersectsAt way arguments)
    (noConditional : ∀ op left right, node ≠ .conditional op left right) :
    way = [] ∧ callsFunction "ST_INTERSECTS" node = true := by
  rcases found with ⟨name, isCall, calls⟩
  cases way with
  | nil =>
    cases isCall
    exact ⟨rfl, calls⟩
  | cons side way =>
    rw [at?_cons_eq_none side way noConditional] at isCall
    cases isCall

theorem IntersectsAt.of_conditional
    (found : (Node.conditional op left right).IntersectsAt way arguments) :
    (∃ rest, way = .left :: rest ∧ left.IntersectsAt rest arguments) ∨
      ∃ rest, way = .right :: rest ∧ right.IntersectsAt rest arguments := by
  rcases found with ⟨name, isCall, calls⟩
  rcases way with _ | ⟨_ | _, way⟩
  · cases isCall
  · exact .inl ⟨way, rfl, name, isCall, calls⟩
  · exact .inr ⟨way, rfl, name, isCall, calls⟩

theorem firstIntersectsAt_left (first : left.FirstIntersectsAt way arguments) (op : String)
    (right : Node) :
    (Node.conditional op left right).FirstIntersectsAt (.left :: way) arguments where
  found := first.found
  first := by
    intro other otherArguments isOther
    rcases isOther.of_conditional with ⟨rest, rfl, isLeft⟩ | ⟨rest, rfl, isRight⟩
    · rcases first.first rest otherArguments isLeft with rfl | later
      · exact .inl rfl
      · exact .inr (.cons later)
    · exact .inr (.rel .leftRight)

theorem firstIntersectsAt_right (first : right.FirstIntersectsAt way arguments) (op : String)
    (noLeft : ∀ way arguments, ¬left.IntersectsAt way arguments) :
    (Node.conditional op left right).FirstIntersectsAt (.right :: way) arguments where
  found := first.found
  first := by
    intro other otherArguments isOther
    rcases isOther.of_conditional with ⟨rest, rfl, isLeft⟩ | ⟨rest, rfl, isRight⟩
    · exact absurd isLeft (noLeft rest otherArguments)
    · rcases first.first rest otherArguments isRight with rfl | later
      · exact .inl rfl
      · exact .inr (.cons later)

theorem not_intersectsAt (unchanged : node.intersects? = none) (way : Way)
    (arguments : List Node) : ¬node.IntersectsAt way arguments := by
  intro found
  fun_induction intersects? node generalizing way with
  | case1 => cases unchanged
  | case2 name arguments noCall => exact noCall (found.eq_self nofun).2
  | case3 => cases unchanged
  | case4 op left right noLeft leftIh rightIh =>
    rcases found.of_conditional with ⟨rest, rfl, isLeft⟩ | ⟨rest, rfl, isRight⟩
    · exact leftIh noLeft rest isLeft
    · exact rightIh (Option.map_eq_none_iff.1 unchanged) rest isRight
  | case5 node noCall noConditional =>
    rcases found.eq_self noConditional with ⟨rfl, calls⟩
    rcases found with ⟨name, isCall, -⟩
    exact noCall name arguments (Option.some.inj isCall)

/-- What is found is the first `ST_INTERSECTS`, with the engine's own in its place if it has one. -/
theorem exists_first_of_intersects? (isChanged : node.intersects? = some changed) :
    ∃ way name arguments, node.FirstIntersectsAt way arguments ∧
      node.at? way = some (.call name arguments) ∧
      changed = node.setAt way ((wktArgument? arguments).elim (.call name arguments)
        engineIntersects) := by
  fun_induction intersects? node generalizing changed with
  | case1 name arguments calls =>
    cases isChanged
    refine ⟨[], name, arguments, ⟨⟨name, rfl, calls⟩, ?_⟩, rfl, rfl⟩
    exact fun other otherArguments isOther => .inl (isOther.eq_self nofun).1
  | case2 => cases isChanged
  | case3 op left right leftChanged isLeft ih =>
    cases isChanged
    rcases ih isLeft with ⟨way, name, arguments, first, isCall, rfl⟩
    exact ⟨.left :: way, name, arguments, firstIntersectsAt_left first op right, isCall, rfl⟩
  | case4 op left right noLeft leftIh rightIh =>
    rcases Option.map_eq_some_iff.1 isChanged with ⟨rightChanged, isRight, rfl⟩
    rcases rightIh isRight with ⟨way, name, arguments, first, isCall, rfl⟩
    exact ⟨.right :: way, name, arguments,
      firstIntersectsAt_right first op (not_intersectsAt noLeft), isCall, rfl⟩
  | case5 => cases isChanged

/--
The last string among the arguments, without the blanks and then the quotes around it, is the
document of a geometry with this text.
-/
inductive HoldsGeometry : List Node → String → Prop
  | last {before after : List Node} {text : String} {document : Json} {geometry : Geometry}
      (isLast : ∀ later, Node.string later ∉ after)
      (reads : Json.read (Text.trimMatches isQuote (Text.trim text)) = some document)
      (converts : Geometry.ofGeoJson document = .ok geometry) :
      HoldsGeometry (before ++ .string text :: after) geometry.toWkt

theorem lastString?_append_singleton (arguments : List Node) (argument : Node) :
    lastString? (arguments ++ [argument]) =
      match argument with
      | .string text => some text
      | _ => lastString? arguments := by
  rw [lastString?, List.foldl_append]
  rfl

theorem lastString?_append_of_forall {before after : List Node}
    (noString : ∀ later, Node.string later ∉ after) :
    lastString? (before ++ after) = lastString? before := by
  induction after using List.reverseRecOn with
  | nil => rw [List.append_nil]
  | append_singleton after argument ih =>
    have rest : ∀ later, Node.string later ∉ after := fun later isLater =>
      noString later (List.mem_append_left _ isLater)
    rw [← List.append_assoc, lastString?_append_singleton]
    split
    next text => exact absurd (List.mem_append_right _ List.mem_cons_self) (noString text)
    next => exact ih rest

theorem lastString?_eq_some_iff :
    lastString? arguments = some text ↔
      ∃ before after, arguments = before ++ .string text :: after ∧
        ∀ later, Node.string later ∉ after := by
  constructor
  · intro isLast
    induction arguments using List.reverseRecOn with
    | nil => cases isLast
    | append_singleton arguments argument ih =>
      rw [lastString?_append_singleton] at isLast
      split at isLast
      next text' =>
        cases isLast
        exact ⟨arguments, [], rfl, nofun⟩
      next noString =>
        rcases ih isLast with ⟨before, after, rfl, noLater⟩
        refine ⟨before, after ++ [argument], by simp, fun later isLater => ?_⟩
        rcases List.mem_append.1 isLater with inside | atEnd
        · exact noLater later inside
        · exact noString later (List.mem_singleton.1 atEnd).symm
  · rintro ⟨before, after, rfl, noString⟩
    have split : before ++ .string text :: after = (before ++ [.string text]) ++ after := by simp
    rw [split, lastString?_append_of_forall noString, lastString?_append_singleton]

theorem wktArgument?_eq_some_iff :
    wktArgument? arguments = some wkt ↔ HoldsGeometry arguments wkt := by
  simp only [wktArgument?, Option.bind_eq_bind, Option.bind_eq_some_iff, Option.some.injEq]
  constructor
  · rintro ⟨text, isLast, document, reads, geometry, converts, rfl⟩
    rcases lastString?_eq_some_iff.1 isLast with ⟨before, after, rfl, noLater⟩
    cases isGeometry : Geometry.ofGeoJson document with
    | error cause => simp [isGeometry, Except.toOption] at converts
    | ok found =>
      simp only [isGeometry, Except.toOption, Option.some.injEq] at converts
      exact .last noLater reads (converts ▸ isGeometry)
  · rintro ⟨isLast, reads, converts⟩
    refine ⟨_, lastString?_eq_some_iff.2 ⟨_, _, rfl, isLast⟩, _, reads, _, ?_, rfl⟩
    rw [converts]
    rfl

/-- The quotes around a document do not count, and neither does a number behind it. -/
example : wktArgument? [.field "the_geom",
    .string " '\x7b\"type\":\"Point\",\"coordinates\":[1,2]\x7d' ", .number "4326"] =
      some "POINT (1 2)" := by decide +kernel

/--
A predicate without a way to an `ST_INTERSECTS` stays as it is. Otherwise the first of them becomes
the engine's own with the geometry that it holds; if it holds none, nothing changes.
-/
theorem withEngineIntersects_changes_first (node : Node) :
    (∀ way arguments, ¬node.IntersectsAt way arguments) ∧ node.withEngineIntersects = node ∨
      ∃ way arguments, node.FirstIntersectsAt way arguments ∧
        ((∃ wkt, HoldsGeometry arguments wkt ∧ node.withEngineIntersects =
            node.setAt way (.call "GEO_INTERSECTS" [.field "the_geom", .string wkt])) ∨
          (∀ wkt, ¬HoldsGeometry arguments wkt) ∧ node.withEngineIntersects = node) := by
  rw [withEngineIntersects]
  cases isChanged : node.intersects? with
  | none => exact .inl ⟨not_intersectsAt isChanged, rfl⟩
  | some changed =>
    right
    rcases exists_first_of_intersects? isChanged with ⟨way, name, arguments, first, isCall, rfl⟩
    refine ⟨way, arguments, first, ?_⟩
    cases isWkt : wktArgument? arguments with
    | none =>
      right
      refine ⟨fun wkt holds => ?_, setAt_eq_self isCall⟩
      rw [wktArgument?_eq_some_iff.2 holds] at isWkt
      cases isWkt
    | some wkt => exact .inl ⟨wkt, wktArgument?_eq_some_iff.1 isWkt, rfl⟩

theorem intersects?_eq_none (absent : ∀ way arguments, ¬node.IntersectsAt way arguments) :
    node.intersects? = none := by
  cases isChanged : node.intersects? with
  | none => rfl
  | some changed =>
    rcases exists_first_of_intersects? isChanged with ⟨way, name, arguments, first, -⟩
    exact absurd first.found (absent way arguments)

/-- No way leads to more than one `ST_INTERSECTS`. -/
def IntersectsOnce (node : Node) : Prop :=
  ∀ way arguments other otherArguments, node.IntersectsAt way arguments →
    node.IntersectsAt other otherArguments → other = way

/-- With its only `ST_INTERSECTS` changed, a predicate leads to none. -/
theorem not_intersectsAt_setAt (once : node.IntersectsOnce)
    (isFirst : node.IntersectsAt way arguments) (wkt : String) (other : Way)
    (otherArguments : List Node) :
    ¬(node.setAt way (engineIntersects wkt)).IntersectsAt other otherArguments := by
  rintro ⟨name, isCall, calls⟩
  rcases isFirst with ⟨firstName, isFirst, firstCalls⟩
  rcases at?_of_at?_setAt isFirst isCall with ⟨rest, rfl, isNew⟩ | ⟨differs, isOld⟩
  · -- the engine's own call has another name, and no conditional below it
    cases rest with
    | nil =>
      cases isNew
      exact absurd calls (by simp only [callsFunction]; decide +kernel)
    | cons side rest =>
      rw [at?_cons_eq_none side rest (fun _ _ _ => Node.noConfusion)] at isNew
      cases isNew
  · exact differs (once _ _ _ _ ⟨firstName, isFirst, firstCalls⟩ ⟨name, isOld, calls⟩)

theorem withEngineIntersects_idem (once : node.IntersectsOnce) :
    node.withEngineIntersects.withEngineIntersects = node.withEngineIntersects := by
  cases isChanged : node.intersects? with
  | none => simp [withEngineIntersects, isChanged]
  | some changed =>
    have result : node.withEngineIntersects = changed := by
      simp [withEngineIntersects, isChanged]
    rcases exists_first_of_intersects? isChanged with ⟨way, name, arguments, first, isCall, same⟩
    cases isWkt : wktArgument? arguments with
    | none =>
      -- a geometry that cannot be written fails in the same way again
      rw [isWkt, Option.elim_none, setAt_eq_self isCall] at same
      rw [result, same, result, same]
    | some wkt =>
      rw [isWkt, Option.elim_some] at same
      have absent := intersects?_eq_none (not_intersectsAt_setAt once first.found wkt)
      rw [result, same, withEngineIntersects, absent, Option.getD_none]

end SearchSql.Node
