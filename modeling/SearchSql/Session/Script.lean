import SearchSql.Session.Run

/-!
# Engines with finitely many pages

An engine whose pages come to an end bounds the turns of a session, so that running a query on it
always comes to an end too.
-/

namespace SearchSql

/-- A page that ends a session, or a failure that does. -/
def Reply.endsPages (reply : Reply Json) : Prop :=
  ∀ body, reply.result = .ok body → (Page.ofResponse body).hitCount = 0

/-- An engine that gives no more hits from some scroll call on. -/
structure FiniteEngine where
  engine : Engine
  pages : Nat
  ends : ∀ call, pages ≤ call → (engine.scroll call).endsPages

namespace FiniteEngine

/-- The turns that suffice: one for each page, one for the first, and one to stop. -/
def turns (finite : FiniteEngine) : Nat := finite.pages + 2

/-- An engine that gives a list of replies to scroll calls and then always the same one. -/
def ofReplies (mapping : Except BackendError Mapping) (explain search : Reply Json)
    (replies : List (Reply Json)) (last : Reply Json) (ends : last.endsPages) : FiniteEngine where
  engine := { mapping, explain, search, scroll := fun call => replies[call]?.getD last }
  pages := replies.length
  ends := by
    intro call beyond
    simpa [List.getElem?_eq_none beyond] using ends

end FiniteEngine

namespace Session

/-- A page without hits ends a session within one turn. -/
theorem loop_isSome_of_hitCount (session : Session) (turns : Nat) (progress : Progress)
    (page : Page) (empty : page.hitCount = 0) :
    (session.loop (turns + 1) progress page).isSome = true := by
  unfold loop turn
  by_cases late : session.options.timeout < progress.elapsed <;> simp [late, empty]

/-- A fetched page comes from the reply to the next scroll call, or is no page at all. -/
def FetchedBy (session : Session) (before after : Progress) (page : Page) : Prop :=
  page.hitCount = 0 ∨
    after.scrolls = before.scrolls + 1 ∧
      ∃ body, (session.engine.scroll before.scrolls).result = .ok body ∧
        page = Page.ofResponse body

theorem fetchedBy_fetch {session : Session} {progress : Progress} {page : Page}
    (fetched : (session.fetch progress).result = .ok page) :
    session.FetchedBy progress (session.fetch progress).progress page := by
  cases id : progress.scrollId with
  | none =>
    simp only [fetch, id, Except.ok.injEq] at fetched
    subst fetched
    exact Or.inl rfl
  | some id' =>
    cases reply : (session.engine.scroll progress.scrolls).result with
    | error cause => simp [fetch, id, reply] at fetched
    | ok body =>
      simp only [fetch, id, reply, Except.ok.injEq] at fetched ⊢
      exact Or.inr ⟨rfl, body, reply, fetched.symm⟩

theorem fetchedBy_lookAhead {session : Session} {progress : Progress} {page : Page}
    (fetched : (session.lookAhead progress).result = .ok (some page)) :
    session.FetchedBy progress (session.lookAhead progress).progress page := by
  unfold lookAhead at fetched ⊢
  split at fetched
  · cases fetched
  next within =>
    simp only [within, Bool.false_eq_true, if_false]
    apply fetchedBy_fetch
    cases result : (session.fetch progress).result with
    | error cause => simp [result, Except.map] at fetched
    | ok page' =>
      simp only [result, Except.map, Except.ok.injEq, Option.some.injEq] at fetched
      rw [fetched]

@[simp]
theorem scrolls_write (session : Session) (progress : Progress) (chunk : String) :
    (session.write progress chunk).progress.scrolls = progress.scrolls := by
  unfold write
  dsimp only
  split <;> rfl

@[simp]
theorem scrolls_writeRows (session : Session) (progress : Progress) (rows : List Record)
    (more : Bool) : (session.writeRows progress rows more).progress.scrolls = progress.scrolls := by
  unfold writeRows
  split
  · rfl
  · exact scrolls_write ..

theorem fetchedBy_turnOver {session : Session} {progress : Progress} {page next : Page}
    (taken : (session.turnOver progress page).result = .ok (.next next)) :
    session.FetchedBy progress (session.turnOver progress page).progress next := by
  unfold turnOver at taken ⊢
  dsimp only at taken ⊢
  split at taken
  · cases taken
  next next? aheadResult =>
    simp only
    cases next? with
    | none =>
      revert taken
      cases (session.writeRows _ _ _).result <;> simp [Except.map]
    | some next' =>
      have fetched := fetchedBy_lookAhead aheadResult
      have same : next' = next := by
        revert taken
        cases (session.writeRows _ _ _).result <;> simp [Except.map]
      subst same
      simpa [FetchedBy] using fetched

theorem fetchedBy_turn {session : Session} {progress : Progress} {page next : Page}
    (taken : (session.turn progress page).result = .ok (.next next)) :
    session.FetchedBy progress (session.turn progress page).progress next := by
  unfold turn at taken ⊢
  split at taken
  · cases taken
  split at taken
  · cases taken
  split at taken
  · cases taken
  next late hits within =>
    simp only [late, hits, within, if_false]
    exact fetchedBy_turnOver taken

/-- Each turn leads to a page without hits or uses up one of the pages that are left. -/
theorem loop_isSome (session : Session) (pages : Nat)
    (ends : ∀ call, pages ≤ call → (session.engine.scroll call).endsPages) (left : Nat) :
    ∀ (progress : Progress) (page : Page), pages ≤ progress.scrolls + left →
      (session.loop (left + 2) progress page).isSome = true := by
  induction left with
  | zero =>
    intro progress page enough
    rw [loop]
    split
    · rfl
    · rfl
    next next taken =>
      rw [Option.isSome_map]
      apply loop_isSome_of_hitCount
      rcases fetchedBy_turn taken with empty | ⟨_, body, reply, rfl⟩
      · exact empty
      · exact ends _ (by omega) body reply
  | succ left ih =>
    intro progress page enough
    rw [loop]
    split
    · rfl
    · rfl
    next next taken =>
      rw [Option.isSome_map]
      rcases fetchedBy_turn taken with empty | ⟨scrolls, _⟩
      · exact loop_isSome_of_hitCount _ _ _ _ empty
      · exact ih _ _ (by omega)

theorem drive_isSome (session : Session) (pages : Nat)
    (ends : ∀ call, pages ≤ call → (session.engine.scroll call).endsPages) (opened : Opened)
    (start : opened.progress.scrolls = 0) :
    (session.drive (pages + 2) opened).isSome = true := by
  unfold drive stream
  rw [Option.isSome_map]
  split
  · rfl
  · rw [Option.isSome_map]
    exact loop_isSome session pages ends pages _ _ (by omega)

end Session

namespace FiniteEngine

theorem isSome_execute (finite : FiniteEngine) (query : Query) (consumer : Consumer)
    (options : Options) (index : String) :
    (query.execute finite.engine consumer options finite.turns index).isSome = true := by
  unfold Query.execute
  dsimp only
  split
  · rfl
  · rw [Option.isSome_map]
    unfold Session.run
    split
    · rfl
    next events opened isOpened =>
      rw [Option.isSome_map]
      refine Session.drive_isSome _ finite.pages finite.ends opened ?_
      unfold Session.openCursor at isOpened
      split at isOpened
      · cases isOpened
      dsimp only at isOpened
      split at isOpened
      · cases isOpened
      split at isOpened
      · cases isOpened
      · cases isOpened
        rfl

/-- Runs a query to its end. -/
def execute (finite : FiniteEngine) (query : Query) (consumer : Consumer) (options : Options)
    (index : String) : Run :=
  (query.execute finite.engine consumer options finite.turns index).get
    (finite.isSome_execute query consumer options index)

end FiniteEngine

end SearchSql
