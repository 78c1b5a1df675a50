import SearchSql.Mapping.Cache

/-!
# What a cache of mappings remembers

The history of a cache is the list of the look-ups that the source was asked for and of the
invalidations, in order. A request that is answered from memory leaves no trace in it. What the
cache keeps about an index is, for every lifetime, what the latest successful look-up of the index
gave, unless the index was invalidated since: `Keeps` says so of a cache and a history, and
`Keeps.step` is the step lemma. The lifetime only decides whether what is kept is given again, which
is `get_of_remembered` and `asks_of_stale`.
-/

namespace SearchSql.Mapping.Cache

/-- What a cache is asked to do, and the second at which it is asked for a mapping. -/
inductive Request
  | get (now : Nat) (index : String)
  | invalidate (index : String)

/-- What a request may come to, beyond an answer from memory. -/
inductive Happening
  | lookup (time : Nat) (index : String) (reply : Except BackendError Mapping)
  | invalidation (index : String)

/-- Whether it settles anew what is known about an index. -/
def Happening.Settles (wanted : String) : Happening → Prop
  | .lookup _ index (.ok _) => index = wanted
  | .lookup _ _ (.error _) => False
  | .invalidation index => index = wanted

/--
The latest successful look-up of an index was made at a time and gave the mapping, and the index was
not invalidated since.
-/
def Remembers (history : List Happening) (time : Nat) (index : String) (mapping : Mapping) : Prop :=
  ∃ before after, history = before ++ .lookup time index (.ok mapping) :: after ∧
    ∀ happening ∈ after, ¬happening.Settles index

theorem not_remembers_nil (time : Nat) (index : String) (mapping : Mapping) :
    ¬Remembers [] time index mapping := by
  rintro ⟨before, after, isHistory, -⟩
  simp at isHistory

/-- A happening is what is remembered, or leaves what was remembered as it was. -/
theorem remembers_concat_iff {history : List Happening} {happening : Happening} {time : Nat}
    {index : String} {mapping : Mapping} :
    Remembers (history ++ [happening]) time index mapping ↔
      happening = .lookup time index (.ok mapping) ∨
        ¬happening.Settles index ∧ Remembers history time index mapping := by
  constructor
  · rintro ⟨before, after, isHistory, unsettled⟩
    rcases List.eq_nil_or_concat after with rfl | ⟨init, last, rfl⟩
    · exact Or.inl (List.singleton_inj.1 (List.append_inj_right' isHistory rfl))
    · rw [List.concat_eq_append, ← List.cons_append, ← List.append_assoc] at isHistory
      have isLast := List.singleton_inj.1 (List.append_inj_right' isHistory rfl)
      refine Or.inr ⟨isLast ▸ unsettled last (by simp), before, init,
        List.append_inj_left' isHistory rfl, ?_⟩
      intro earlier member
      exact unsettled earlier (by simp [member])
  · rintro (rfl | ⟨unsettled, before, after, rfl, earlier⟩)
    · exact ⟨history, [], rfl, by simp⟩
    · refine ⟨before, after ++ [happening], by simp, ?_⟩
      simpa [or_imp, forall_and] using And.intro earlier unsettled

variable {cache : Cache} {past : List Happening} {now : Nat} {index : String}

/-- A request for a mapping is answered by the source, which is noted. -/
structure Asks (cache : Cache) (now : Nat) (index : String) : Prop where
  reply : (cache.get now index).1 = cache.source cache.lookups.length
  lookups : (cache.get now index).2.lookups = cache.lookups ++ [index]

theorem lookups_fetch (cache : Cache) (now : Nat) (index : String) :
    (cache.fetch now index).2.lookups = cache.lookups ++ [index] := by
  unfold fetch
  dsimp only
  split <;> rfl

theorem reply_fetch (cache : Cache) (now : Nat) (index : String) :
    (cache.fetch now index).1 = cache.source cache.lookups.length := by
  unfold fetch
  dsimp only
  split
  next fails => exact fails.symm
  next brings => exact brings.symm

theorem entries_fetch (cache : Cache) (now : Nat) (index : String) :
    (cache.fetch now index).2.entries =
      match cache.source cache.lookups.length with
      | .ok mapping => Table.put index ⟨mapping, now⟩ cache.entries
      | .error _ => cache.entries := by
  unfold fetch
  dsimp only
  split <;> simp_all

/-- A request for a mapping either finds it fresh or fetches it. -/
theorem get_cases (cache : Cache) (now : Nat) (index : String) :
    (∃ fetched, Table.get? cache.entries index = some fetched ∧
      now - fetched.time < cache.lifetime ∧ cache.get now index = (.ok fetched.mapping, cache)) ∨
    (∀ fetched, Table.get? cache.entries index = some fetched →
      cache.lifetime ≤ now - fetched.time) ∧ cache.get now index = cache.fetch now index := by
  unfold get fresh?
  cases kept : Table.get? cache.entries index with
  | none => exact Or.inr ⟨by simp, rfl⟩
  | some fetched =>
    by_cases fresh : now - fetched.time < cache.lifetime
    · exact Or.inl ⟨fetched, rfl, fresh, by simp [fresh]⟩
    · refine Or.inr ⟨?_, by simp [fresh]⟩
      rintro fetched' isFetched
      cases isFetched
      exact Nat.le_of_not_lt fresh

theorem asks_of_fetch (isFetch : cache.get now index = cache.fetch now index) :
    cache.Asks now index :=
  ⟨isFetch ▸ reply_fetch cache now index, isFetch ▸ lookups_fetch cache now index⟩

/-- The cache after a request. -/
def step (cache : Cache) : Request → Cache
  | .get now index => (cache.get now index).2
  | .invalidate index => cache.invalidate index

/-- What a request comes to. That the source was asked is seen by its look-ups. -/
def happenings (cache : Cache) : Request → List Happening
  | .get now index =>
    if (cache.get now index).2.lookups = cache.lookups then []
    else [.lookup now index (cache.get now index).1]
  | .invalidate index => [.invalidation index]

def after (cache : Cache) (requests : List Request) : Cache := requests.foldl step cache

/-- What some requests came to. -/
def history (cache : Cache) : List Request → List Happening
  | [] => []
  | request :: rest => cache.happenings request ++ (cache.step request).history rest

theorem happenings_of_fetch (isFetch : cache.get now index = cache.fetch now index) :
    cache.happenings (.get now index) =
      [.lookup now index (cache.source cache.lookups.length)] := by
  have asks := asks_of_fetch isFetch
  simp [happenings, asks.lookups, asks.reply]

/-- What is kept about an index is what the history remembers of it. -/
def Keeps (cache : Cache) (history : List Happening) : Prop :=
  ∀ index fetched, Table.get? cache.entries index = some fetched ↔
    Remembers history fetched.time index fetched.mapping

theorem keeps_nil (source : Nat → Except BackendError Mapping) (lifetime : Nat) :
    Keeps { source, lifetime } [] := by
  intro index fetched
  simp [not_remembers_nil]

namespace Keeps

theorem fetch (keeps : cache.Keeps past) (now : Nat) (index : String) :
    (cache.fetch now index).2.Keeps
      (past ++ [.lookup now index (cache.source cache.lookups.length)]) := by
  intro wanted fetched
  rw [entries_fetch, remembers_concat_iff]
  cases reply : cache.source cache.lookups.length with
  | error cause => simp [Happening.Settles, keeps wanted fetched]
  | ok mapping =>
    rcases fetched with ⟨fetchedMapping, time⟩
    rw [Table.get?_put]
    by_cases same : index = wanted
    · simp [Happening.Settles, same, and_comm]
    · simp [Happening.Settles, same, keeps wanted ⟨fetchedMapping, time⟩]

theorem invalidate (keeps : cache.Keeps past) (index : String) :
    (cache.invalidate index).Keeps (past ++ [.invalidation index]) := by
  intro wanted fetched
  rw [remembers_concat_iff]
  have erased := Table.get?_erase cache.entries index wanted
  simp only [Cache.invalidate, erased]
  by_cases same : index = wanted
  · simp [Happening.Settles, same]
  · simp [Happening.Settles, same, keeps wanted fetched]

theorem step (keeps : cache.Keeps past) (request : Request) :
    (cache.step request).Keeps (past ++ cache.happenings request) := by
  cases request with
  | get now index =>
    rcases get_cases cache now index with ⟨fetched, -, -, recalls⟩ | ⟨-, isFetch⟩
    · simpa [Cache.step, happenings, recalls] using keeps
    · rw [happenings_of_fetch isFetch, Cache.step, isFetch]
      exact keeps.fetch now index
  | invalidate index => exact keeps.invalidate index

theorem after (keeps : cache.Keeps past) (requests : List Request) :
    (cache.after requests).Keeps (past ++ cache.history requests) := by
  induction requests generalizing cache past with
  | nil => simpa [Cache.after, Cache.history] using keeps
  | cons request rest ih =>
    have later := ih (keeps.step request)
    rwa [List.append_assoc] at later

/-- What is remembered is given again as long as it is not too old. -/
theorem get_of_remembered (keeps : cache.Keeps past) {time : Nat} {mapping : Mapping}
    (remembers : Remembers past time index mapping) (fresh : now - time < cache.lifetime) :
    cache.get now index = (.ok mapping, cache) := by
  have kept := (keeps index ⟨mapping, time⟩).2 remembers
  rcases get_cases cache now index with ⟨fetched, isKept, -, recalls⟩ | ⟨stale, -⟩
  · rw [kept, Option.some.injEq] at isKept
    rw [recalls, ← isKept]
  · exact absurd fresh (Nat.not_lt.mpr (stale _ kept))

/-- The source is asked if nothing is remembered or all that is remembered is too old. -/
theorem asks_of_stale (keeps : cache.Keeps past)
    (stale : ∀ time mapping, Remembers past time index mapping →
      cache.lifetime ≤ now - time) : cache.Asks now index := by
  rcases get_cases cache now index with ⟨fetched, isKept, fresh, -⟩ | ⟨-, isFetch⟩
  · have tooOld := stale fetched.time fetched.mapping ((keeps index fetched).1 isKept)
    exact absurd fresh (Nat.not_lt.mpr tooOld)
  · exact asks_of_fetch isFetch

end Keeps

theorem settings_step (cache : Cache) (request : Request) :
    (cache.step request).source = cache.source ∧
      (cache.step request).lifetime = cache.lifetime := by
  cases request with
  | get now index =>
    rcases get_cases cache now index with ⟨_, -, -, recalls⟩ | ⟨-, isFetch⟩
    · simp [step, recalls]
    · rw [step, isFetch, fetch]
      dsimp only
      split <;> exact ⟨rfl, rfl⟩
  | invalidate index => exact ⟨rfl, rfl⟩

theorem settings_after (cache : Cache) (requests : List Request) :
    (cache.after requests).source = cache.source ∧
      (cache.after requests).lifetime = cache.lifetime := by
  induction requests generalizing cache with
  | nil => exact ⟨rfl, rfl⟩
  | cons request rest ih =>
    have later := ih (cache.step request)
    have here := cache.settings_step request
    exact ⟨later.1.trans here.1, later.2.trans here.2⟩

theorem get_mem_of_lookup {requests : List Request} {time : Nat}
    {reply : Except BackendError Mapping}
    (member : .lookup time index reply ∈ cache.history requests) :
    .get time index ∈ requests := by
  induction requests generalizing cache with
  | nil => cases member
  | cons request rest ih =>
    rw [history, List.mem_append] at member
    rcases member with here | later
    · cases request with
      | get now index =>
        rw [happenings] at here
        split at here
        · cases here
        · cases List.mem_singleton.1 here
          exact List.mem_cons_self
      | invalidate index => cases List.mem_singleton.1 here
    · exact List.mem_cons_of_mem _ (ih later)

/-- Nothing that is fetched for one of the requests is too old for another. -/
def NeverExpires (lifetime : Nat) (requests : List Request) : Prop :=
  ∀ earlier index later wanted, .get earlier index ∈ requests → .get later wanted ∈ requests →
    later - earlier < lifetime

/-- A failure is that of the source, and all that is kept stays as it was. -/
theorem entries_of_error {cause : BackendError} (fails : (cache.get now index).1 = .error cause) :
    cache.Asks now index ∧ (cache.get now index).2.entries = cache.entries := by
  rcases get_cases cache now index with ⟨_, -, -, recalls⟩ | ⟨-, isFetch⟩
  · rw [recalls] at fails
    cases fails
  · have asks := asks_of_fetch isFetch
    refine ⟨asks, ?_⟩
    have isReply := asks.reply.symm.trans fails
    rw [isFetch, entries_fetch, isReply]

theorem get?_entries_get (cache : Cache) (now : Nat) {index other : String}
    (differs : other ≠ index) :
    Table.get? (cache.get now index).2.entries other = Table.get? cache.entries other := by
  rcases get_cases cache now index with ⟨_, -, -, recalls⟩ | ⟨-, isFetch⟩
  · rw [recalls]
  · rw [isFetch, entries_fetch]
    split
    · rw [Table.get?_put, if_neg differs.symm]
    · rfl

/--
After any requests, a request for a mapping asks the source if and only if the history remembers
nothing of the index, and otherwise gives what is remembered, provided that nothing expires; with
no lifetime at all it always asks. A failure changes nothing that is kept, and nothing is done to
what is kept about other indices.
-/
theorem get_after_requests (source : Nat → Except BackendError Mapping) (lifetime : Nat)
    (requests : List Request) (now : Nat) (index : String) :
    let cache := after { source, lifetime } requests
    let history := history { source, lifetime } requests
    (NeverExpires lifetime (requests ++ [.get now index]) →
      (∀ time mapping, Remembers history time index mapping →
        cache.get now index = (.ok mapping, cache)) ∧
      ((¬∃ time mapping, Remembers history time index mapping) → cache.Asks now index)) ∧
    (lifetime = 0 → cache.Asks now index) ∧
    (∀ cause, (cache.get now index).1 = .error cause →
      cache.Asks now index ∧ (cache.get now index).2.entries = cache.entries) ∧
    ∀ other, other ≠ index →
      Table.get? (cache.get now index).2.entries other = Table.get? cache.entries other ∧
      Table.get? (cache.invalidate index).entries other = Table.get? cache.entries other := by
  intro cache history
  have keeps : cache.Keeps history := (keeps_nil source lifetime).after requests
  have isLifetime : cache.lifetime = lifetime := (settings_after _ requests).2
  refine ⟨fun neverExpires => ⟨?_, ?_⟩, ?_, fun _ => entries_of_error, fun other differs => ⟨?_, ?_⟩⟩
  · intro time mapping remembers
    refine keeps.get_of_remembered remembers ?_
    rcases remembers with ⟨before, after, isHistory, -⟩
    have lookedUp : .lookup time index (.ok mapping) ∈ history := by simp [isHistory]
    rw [isLifetime]
    exact neverExpires time index now index
      (List.mem_append_left _ (get_mem_of_lookup lookedUp)) (by simp)
  · intro forgotten
    refine keeps.asks_of_stale fun time mapping remembers => ?_
    exact absurd ⟨time, mapping, remembers⟩ forgotten
  · intro isZero
    refine keeps.asks_of_stale fun time mapping _ => ?_
    rw [isLifetime, isZero]
    exact Nat.zero_le _
  · exact get?_entries_get cache now differs
  · exact (Table.get?_erase cache.entries index other).trans (if_neg differs.symm)

/--
The mapping of `a` outlives a failed look-up of `b` and an invalidation of `b` and is given without
asking again, while the source is asked for `b` once more.
-/
theorem get_after_failure :
    let replies : List (Except BackendError Mapping) :=
      [.ok [("iso", .text)], .error (.status 404 "no such index")]
    let source := fun call => replies[call]?.getD (.ok [])
    let requests : List Request := [.get 0 "a", .get 5 "b", .invalidate "b"]
    let cache := after { source } requests
    NeverExpires 300 (requests ++ [.get 9 "a"]) ∧
      cache.get 9 "a" = (.ok [("iso", .text)], cache) ∧ cache.Asks 9 "b" ∧
      cache.lookups = ["a", "b"] := by
  intro replies source requests cache
  have neverExpires : ∀ index, NeverExpires 300 (requests ++ [.get 9 index]) := by
    intro last earlier index later wanted asked askedLater
    simp [requests] at asked askedLater
    omega
  have remembers : Remembers (history { source } requests) 0 "a" [("iso", .text)] := by
    refine ⟨[], [.lookup 5 "b" (.error (.status 404 "no such index")), .invalidation "b"], rfl, ?_⟩
    simp [Happening.Settles]
  have forgotten : ¬∃ time mapping, Remembers (history { source } requests) time "b" mapping := by
    rintro ⟨time, mapping, remembers⟩
    have settled := (@remembers_concat_iff [.lookup 0 "a" (.ok [("iso", .text)]),
      .lookup 5 "b" (.error (.status 404 "no such index"))] (.invalidation "b") _ _ _).1 remembers
    simp [Happening.Settles] at settled
  have ofA := (get_after_requests source 300 requests 9 "a").1 (neverExpires "a")
  have ofB := (get_after_requests source 300 requests 9 "b").1 (neverExpires "b")
  exact ⟨neverExpires "a", ofA.1 0 _ remembers, ofB.2 forgotten, rfl⟩

end SearchSql.Mapping.Cache
