import SearchSql.Proofs.Query.RoundTrip

/-!
# What a statement says beside its query

The grammar takes HAVING, joins and a limit that is computed, and a statement that has one of them
is refused, since its query would ask for something else. The grammar takes DISTINCT behind SELECT
and before the arguments of a call, and OFFSET behind the limit, as well. But all that is kept of
these are texts, and a query is made without a look at them: the statement is read as the query that
it would be if they were left out.
-/

namespace SearchSql

open Sql

/-! ## What is refused -/

theorem bind_eq_ok_iff {α β : Type} {first : Except QueryError α} {next : α → Except QueryError β}
    {result : β} :
    first >>= next = .ok result ↔ ∃ value, first = .ok value ∧ next value = .ok result := by
  cases first with
  | error error => exact ⟨nofun, nofun⟩
  | ok value =>
    refine ⟨fun isResult => ⟨value, rfl, isResult⟩, ?_⟩
    rintro ⟨_, ⟨⟩, isResult⟩
    exact isResult

theorem exists_of_indexOf {tables : List JoinedRelation} {index : String}
    (isIndex : indexOf tables = .ok index) : ∃ table, tables = [table] ∧ table.joins = [] := by
  unfold indexOf at isIndex
  split at isIndex
  next table =>
    split at isIndex
    next => cases isIndex
    next noJoins => exact ⟨table, rfl, by simpa using noJoins⟩
  next => cases isIndex

theorem exists_of_limitOf {limit : Option Expr} {number : Option Nat}
    (isNumber : limitOf limit = .ok number) :
    ∀ expr ∈ limit, ∃ text long, expr = .number text long := by
  rintro expr ⟨⟩
  unfold limitOf at isNumber
  split at isNumber
  next none => cases none
  next text long isExpr => exact ⟨text, long, Option.some.inj isExpr⟩
  next => cases isNumber

namespace Query

/-- A query is only made of one table without joins, without HAVING and with a number as limit. -/
theorem exists_of_ofSelect {select : SelectQuery} {query : Query}
    (isQuery : Query.ofSelect select = .ok query) :
    ∃ body table, select.body = some body ∧ body.hasHaving = false ∧ body.tables = [table] ∧
      table.joins = [] ∧ ∀ limit ∈ select.limit, ∃ text long, limit = .number text long := by
  unfold Query.ofSelect at isQuery
  split at isQuery
  next => cases isQuery
  next body isBody =>
    rcases bind_eq_ok_iff.1 isQuery with ⟨index, isIndex, isQuery⟩
    rcases bind_eq_ok_iff.1 isQuery with ⟨select, isSelect, isQuery⟩
    rcases exists_of_indexOf isIndex with ⟨table, isTable, noJoins⟩
    cases having : body.hasHaving with
    | true =>
      rw [having] at isQuery
      cases isQuery
    | false =>
      rw [having] at isQuery
      rcases bind_eq_ok_iff.1 isQuery with ⟨limit, isLimit, -⟩
      exact ⟨body, table, isBody, having, isTable, noJoins, exists_of_limitOf isLimit⟩

/-! ## What is dropped -/

variable {query : Query} {dropped : Dropped} {units : List SelectUnit} {text bare : String}

/--
A statement with DISTINCT, in calls or behind SELECT, or with OFFSET is read as the query that the
statement without them is read as.
-/
theorem ofSql_of_dropped (readable : query.Readable units)
    (noColumns : query.NoColumns dropped units)
    (isTokens : Token.scan text = some (query.tokens dropped units))
    (isBare : Token.scan bare = some (query.tokens {} units)) :
    (∀ first second, Query.ofSql text = .ok first → Query.ofSql bare = .ok second →
      first = second) ∧
    ((∀ node ∈ query.nodes, node.height + 2 ≤ nestingLimit) →
      (∀ limit ∈ query.limit, limit < Decimal.wordBound) →
      Query.ofSql text = .ok query ∧ Query.ofSql bare = .ok query) := by
  have whole := readable.ofSql_of_tokens noColumns isTokens
  have rest := readable.ofSql_of_tokens (noColumns_none query units) isBare
  refine ⟨fun first second isFirst isSecond => ?_, fun shallow fits => ?_⟩
  · exact (whole.1 first isFirst).trans (rest.1 second isSecond).symm
  · exact ⟨whole.2 shallow fits, rest.2 shallow fits⟩

/-- A query that selects one unit and has no other clause. -/
def selecting (unit : SelectUnit) (index : String) : Query where
  select := unit.items
  index := index

theorem readable_selecting {unit : SelectUnit} {index : String} (readable : unit.Readable)
    (isIndex : ∀ name ∈ Text.split '.' index, IsName name) :
    (selecting unit index).Readable [unit] where
  select := by simp [selecting]
  nonempty := List.cons_ne_nil _ _
  units := by simpa using readable
  index := isIndex
  predicate := nofun
  group := nofun
  order := nofun
  selects := rfl

theorem ofSql_selecting {unit : SelectUnit} {index : String}
    (readable : (selecting unit index).Readable [unit])
    (shallow : ∀ node ∈ (selecting unit index).nodes, node.height + 2 ≤ nestingLimit)
    (noColumns : (selecting unit index).NoColumns dropped [unit])
    (isTokens : Token.scan text = some ((selecting unit index).tokens dropped [unit])) :
    Query.ofSql text = .ok (selecting unit index) :=
  (readable.ofSql_of_tokens noColumns isTokens).2 shallow nofun

def buyer : SelectUnit := .single ⟨.field "buyer", none⟩

def buyerCount : SelectUnit := .single ⟨.call "count" [.field "buyer"], some "buyers"⟩

theorem readable_buyer : (selecting buyer "orders").Readable [buyer] :=
  readable_selecting (.field _ (by decide +kernel)) (by decide +kernel)

theorem readable_buyerCount : (selecting buyerCount "orders").Readable [buyerCount] := by
  have isArgument : (Node.field "buyer").Readable := .field _ (by decide +kernel)
  have isCall : (Node.call "count" [.field "buyer"]).Readable := by
    refine .call _ _ (by decide +kernel) ?_
    simpa using isArgument
  refine readable_selecting (.call _ _ _ isCall ?_) (by decide +kernel)
  rintro _ ⟨⟩
  decide +kernel

theorem ofSql_of_dropped_buyerCount :
    Query.ofSql "SELECT DISTINCT count(DISTINCT buyer) AS buyers FROM orders OFFSET 5" =
      .ok (selecting buyerCount "orders") := by
  let dropped : Dropped := { rows := true, calls := fun _ => true, offset := some 5 }
  have isTokens : Token.scan
      "SELECT DISTINCT count(DISTINCT buyer) AS buyers FROM orders OFFSET 5" =
      some ((selecting buyerCount "orders").tokens dropped [buyerCount]) := by decide +kernel
  have isBare : Token.scan "SELECT count(buyer) AS buyers FROM orders" =
      some ((selecting buyerCount "orders").tokens {} [buyerCount]) := by decide +kernel
  have isRead := (ofSql_of_dropped readable_buyerCount (fun _ => by decide +kernel) isTokens
    isBare).2 (by decide) (by decide)
  exact isRead.1

/-- DISTINCT rows, a count of DISTINCT buyers and an OFFSET, each of them alone. -/
theorem ofSql_eq_of_dropped_alone :
    (Query.ofSql "SELECT buyer FROM orders" = .ok (selecting buyer "orders") ∧
      Query.ofSql "SELECT DISTINCT buyer FROM orders" = .ok (selecting buyer "orders") ∧
      Query.ofSql "SELECT buyer FROM orders OFFSET 5" = .ok (selecting buyer "orders")) ∧
    Query.ofSql "SELECT count(buyer) AS buyers FROM orders" =
      .ok (selecting buyerCount "orders") ∧
    Query.ofSql "SELECT count(DISTINCT buyer) AS buyers FROM orders" =
      .ok (selecting buyerCount "orders") := by
  have rows : (selecting buyer "orders").NoColumns { rows := true } [buyer] :=
    fun _ => by decide +kernel
  have offset : (selecting buyer "orders").NoColumns { offset := some 5 } [buyer] := nofun
  have calls : (selecting buyerCount "orders").NoColumns { calls := fun _ => true } [buyerCount] :=
    nofun
  exact ⟨⟨ofSql_selecting readable_buyer (by decide) (noColumns_none _ _) (by decide +kernel),
    ofSql_selecting readable_buyer (by decide) rows (by decide +kernel),
    ofSql_selecting readable_buyer (by decide) offset (by decide +kernel)⟩,
    ofSql_selecting readable_buyerCount (by decide) (noColumns_none _ _) (by decide +kernel),
    ofSql_selecting readable_buyerCount (by decide) calls (by decide +kernel)⟩

end Query

end SearchSql
