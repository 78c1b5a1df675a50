import SearchSql.Proofs.Sql.Parsing
import SearchSql.Sql.Grammar.Operand

/-!
# Names that are read as names

A word that is not reserved is read as a name wherever an operand may stand: it begins no literal of
a type and no form that a keyword leads. What stands behind it makes it a path or a call, and
otherwise it is the name of a field.
-/

namespace SearchSql.Sql

open SearchSql.Sql.Parser

/-- The words that the grammar has a use of its own for where a name may stand in a query. -/
def reservedWords : List String := [
  "ALL", "ANY", "ARRAY", "BIGDECIMAL", "BIGINT", "BIGNUMERIC", "BINARY", "BLOB", "BOOL", "BOOLEAN",
  "BYTEA", "BYTES", "CASE", "CAST", "CEIL", "CHAR", "CHARACTER", "CLOB", "CONVERT", "CUBE",
  "CURRENT_CATALOG", "CURRENT_DATE", "CURRENT_TIME", "CURRENT_TIMESTAMP", "CURRENT_USER", "DATE",
  "DATE32", "DATETIME", "DATETIME64", "DEC", "DECIMAL", "DISTINCT", "DOUBLE", "ENUM", "EXISTS",
  "EXTRACT", "FALSE", "FIXEDSTRING", "FLOAT", "FLOAT32", "FLOAT4", "FLOAT64", "FLOAT8", "FLOOR",
  "FROM", "GROUPING", "INT", "INT128", "INT16", "INT2", "INT256", "INT32", "INT4", "INT64", "INT8",
  "INTEGER", "INTERVAL", "JSON", "JSONB", "LATERAL", "LOCALTIME", "LOCALTIMESTAMP",
  "LOWCARDINALITY", "MAP", "MATCH", "MEDIUMINT", "NESTED", "NOT", "NULL", "NULLABLE", "NUMERIC",
  "NVARCHAR", "OVERLAY", "POSITION", "PRIOR", "REAL", "REGCLASS", "ROLLUP", "SAFE_CAST", "SELECT",
  "SESSION_USER", "SET", "SMALLINT", "STRING", "STRUCT", "SUBSTRING", "TABLE", "TEXT", "TIME",
  "TIMESTAMP", "TIMESTAMPTZ", "TIMETZ", "TINYINT", "TOP", "TRIGGER", "TRIM", "TRUE", "TRY_CAST",
  "TUPLE", "UINT128", "UINT16", "UINT256", "UINT32", "UINT64", "UINT8", "UNION", "UNNEST", "USER",
  "UUID", "VARBINARY", "VARCHAR", "WITH"]

/-- A name that needs no quotes and that the grammar does not take for anything else. -/
structure IsName (name : String) : Prop where
  plain : isPlainWord name.toList = true
  free : keywordForm name ∉ reservedWords

instance (name : String) : Decidable (IsName name) :=
  decidable_of_iff (isPlainWord name.toList = true ∧ keywordForm name ∉ reservedWords)
    ⟨fun ⟨plain, free⟩ => ⟨plain, free⟩, fun isName => ⟨isName.plain, isName.free⟩⟩

theorem reservedWords_sublist : reservedWords.Sublist Keyword.all := by decide +kernel

/-- A word that is no keyword is a name. -/
theorem isName_of_not_keyword {name : String} (plain : isPlainWord name.toList = true)
    (noKeyword : keywordForm name ∉ Keyword.all) : IsName name :=
  ⟨plain, fun reserved => noKeyword (reservedWords_sublist.subset reserved)⟩

/-! ## Literals of a type -/

/-- The words that name a type of their own. -/
def typeWords : List String :=
  plainTypes.names ++ sizedTypes ++ integerTypes ++ decimalTypes ++ [
    "DOUBLE", "VARCHAR", "NVARCHAR", "CHARACTER", "CHAR", "TIMESTAMP", "TIME", "TIMESTAMPTZ",
    "TIMETZ", "DATETIME64", "FIXEDSTRING", "ENUM", "SET", "INTERVAL", "ARRAY", "STRUCT", "UNION",
    "NULLABLE", "LOWCARDINALITY", "MAP", "TUPLE", "NESTED"]

theorem typeWords_subset : typeWords ⊆ reservedWords := by decide +kernel

/-- A dot with the name behind it, or nothing. -/
abbrev dotted : Parser (Option Identifier) := do
  if ← symbol? "." then some <$> identifier else pure none

/-- Every token that a parser leaves is one that it was given. -/
def Leaves {α : Type} (parser : Parser α) : Prop :=
  ∀ tokens value rest, parser tokens = some (value, rest) → rest ⊆ tokens

namespace Leaves

variable {α β : Type}

theorem pure (value : α) : Leaves (pure value : Parser α) := by
  intro tokens result rest isResult
  cases isResult
  exact fun _ isToken => isToken

theorem failure : Leaves (failure : Parser α) := nofun

theorem bind {parser : Parser α} {next : α → Parser β} (first : Leaves parser)
    (second : ∀ value, Leaves (next value)) : Leaves (parser >>= next) := by
  intro tokens result rest isResult
  rcases bind_eq_some_iff.1 isResult with ⟨value, between, isFirst, isSecond⟩
  exact fun _ isToken => first _ _ _ isFirst (second _ _ _ _ isSecond isToken)

theorem next : Leaves next := by
  intro tokens value rest isResult
  cases tokens with
  | nil => cases isResult
  | cons token tokens => cases isResult; exact List.subset_cons_self _ _

theorem symbol? (mark : String) : Leaves (symbol? mark) := by
  intro tokens value rest isResult
  unfold Parser.symbol? at isResult
  split at isResult
  · split at isResult <;> cases isResult
    · exact List.subset_cons_self _ _
    · exact fun _ isToken => isToken
  · cases isResult
    exact fun _ isToken => isToken

theorem repeated {parser : Parser (Option α)} (leaves : Leaves parser) (steps : Nat) :
    Leaves (repeated steps parser) := by
  induction steps with
  | zero => exact failure
  | succ steps ih =>
    refine leaves.bind fun value => ?_
    cases value with
    | none => exact pure []
    | some value => exact ih.bind fun values => pure _

theorem identifier : Leaves identifier := by
  refine next.bind fun token => ?_
  split
  · exact pure _
  · exact failure

theorem customParameter? : Leaves customParameter? := by
  refine next.bind fun token => ?_
  split <;> first | exact pure _ | exact failure

theorem dotted : Leaves dotted := by
  refine (symbol? ".").bind fun isDot => ?_
  cases isDot with
  | true => exact identifier.bind fun name => pure _
  | false => exact pure none

theorem customType (g : Grammar) : Leaves g.customType := by
  refine bind (bind (identifier.bind fun name => ?_) fun names => pure _) fun name => ?_
  · exact (dotted.repeated g.steps).bind fun names => pure _
  · refine (symbol? "(").bind fun isOpen => ?_
    cases isOpen with
    | true => exact (customParameter?.repeated g.steps).bind fun parameters => pure _
    | false => exact pure _

end Leaves

/-! ## Paths -/

/-- The expression of names with dots between them. -/
def pathExpr : List String → Expr
  | [name] => .identifier ⟨name, none⟩
  | names => .compound (names.map fun name => ⟨name, none⟩)

/-- The word DISTINCT, or nothing. -/
def distinctTokens (isDistinct : Bool) : List Token :=
  if isDistinct then [.word "DISTINCT"] else []

@[simp]
theorem distinctTokens_false : distinctTokens false = [] := rfl

@[simp]
theorem plain_distinctTokens (isDistinct : Bool) : Plain (distinctTokens isDistinct) := by
  cases isDistinct <;> simp [distinctTokens]

/-- The tokens of names that stand behind another, each with a dot before it. -/
def dotTokens (names : List String) : List Token :=
  names.flatMap fun name => [.symbol ".", .word name]

theorem pathTokens_cons (name : String) (names : List String) :
    pathTokens (name :: names) = .word name :: dotTokens names := by
  induction names generalizing name with
  | nil => rfl
  | cons next names ih =>
    rw [pathTokens, ih next]
    · rfl
    · simp

theorem plain_pathTokens (names : List String) : Plain (pathTokens names) := by
  induction names with
  | nil => exact plain_nil
  | cons name names ih =>
    cases names with
    | nil => simp [pathTokens]
    | cons next names => simpa [pathTokens] using ih

theorem length_le_pathTokens (names : List String) :
    names.length ≤ (pathTokens names).length := by
  induction names with
  | nil => exact Nat.le_refl 0
  | cons name names ih =>
    cases names with
    | nil => exact Nat.le_refl 1
    | cons next names =>
      simp only [pathTokens, List.length_cons] at ih ⊢
      omega

theorem repeated_dotted (names : List String) {steps : Nat} {words marks : List String}
    {rest : List Token} (begins : Begins words marks rest) (noDot : "." ∉ marks)
    (enough : names.length < steps) :
    repeated steps dotted (dotTokens names ++ rest) =
      some (names.map fun name => ⟨name, none⟩, rest) := by
  induction names generalizing steps with
  | nil => exact repeated_none (bind_of_eq (begins.noSymbol noDot)) enough
  | cons name names ih =>
    rw [List.length_cons] at enough
    cases steps with
    | zero => omega
    | succ steps =>
      have first : dotted (.symbol "." :: .word name :: (dotTokens names ++ rest)) =
          some (some ⟨name, none⟩, dotTokens names ++ rest) := rfl
      have later := ih (show names.length < steps by omega)
      show repeated (steps + 1) dotted (.symbol "." :: .word name :: (dotTokens names ++ rest)) = _
      rw [repeated, bind_of_eq first]
      exact bind_of_eq later

namespace Grammar

variable {g : Grammar} {tokens : List Token}

theorem arraySizes_plain (plain : Plain tokens) (enough : 0 < g.steps) :
    g.arraySizes tokens = some ("", tokens) := by
  have noIndex : symbol? "[" tokens = some (false, tokens) := by
    unfold symbol?
    split
    next mark rest =>
      rw [if_neg]
      rintro rfl
      exact plain _ List.mem_cons_self (by decide)
    next => rfl
  rw [arraySizes, bind_of_eq (repeated_none (bind_of_eq noIndex) enough)]
  rfl

theorem builtinType?_eq_none {word : String} (noType : word ∉ typeWords)
    (element : Parser OpenType) : g.builtinType? word element = none := by
  simp only [typeWords, List.mem_append, not_or] at noType
  rcases noType with ⟨⟨⟨⟨noPlain, noSized⟩, noInteger⟩, noDecimal⟩, noOther⟩
  have noText := Table.get?_eq_none_iff.2 noPlain
  unfold builtinType?
  extract_lets closed inner
  clear_value inner
  simp only [noText, List.contains_iff_mem, noSized, noInteger, noDecimal, if_false]
  split <;> first | rfl | exact absurd (by decide) noOther

theorem family_customType {type : TypeName} {rest : List Token}
    (isType : g.customType tokens = some (type, rest)) : type.family = .custom := by
  rcases bind_eq_some_iff.1 isType with ⟨name, behind, -, isType⟩
  rcases bind_eq_some_iff.1 isType with ⟨isOpen, behind, -, isType⟩
  cases isOpen with
  | true =>
    rcases bind_eq_some_iff.1 isType with ⟨parameters, behind, -, isType⟩
    cases isType
    rfl
  | false =>
    cases isType
    rfl

/-- A type that no keyword leads has a name of its own. -/
theorem family_typeName {type : TypeName} {rest : List Token} (plain : Plain tokens)
    (noType : ∀ word, headWord tokens = some word → word ∉ typeWords)
    (isType : g.typeName tokens = some (type, rest)) : type.family = .custom := by
  rcases bind_eq_some_iff.1 isType with ⟨⟨found, closed⟩, behind, isOpen, isFound⟩
  rcases bind_eq_some_iff.1 isFound with ⟨_, behind, isGuard, isFound⟩
  rcases guard_eq_some_iff.1 isGuard with ⟨-, rfl⟩
  cases isFound
  cases isSteps : g.steps with
  | zero =>
    rw [isSteps] at isOpen
    cases isOpen
  | succ depth =>
    rw [isSteps] at isOpen
    rcases bind_eq_some_iff.1 isOpen with ⟨word, same, isWord, isOpen⟩
    cases isWord
    have noBuiltin : ((tokens.head?.bind Token.keyword?).bind fun word =>
        g.builtinType? word (g.openType depth)) = none :=
      Option.bind_eq_none_iff.2 fun word isWord => builtinType?_eq_none (noType word isWord) _
    rw [noBuiltin] at isOpen
    rcases bind_eq_some_iff.1 isOpen with ⟨first, same, isFirst, isOpen⟩
    cases isFirst
    rcases bind_eq_some_iff.1 isOpen with ⟨_, same, isGuard, isOpen⟩
    rcases guard_eq_some_iff.1 isGuard with ⟨-, rfl⟩
    rcases bind_eq_some_iff.1 isOpen with ⟨custom, afterName, isCustom, isOpen⟩
    have plainName : Plain afterName := fun token isToken =>
      plain token (Leaves.customType g _ _ _ isCustom isToken)
    rcases bind_eq_some_iff.1 isOpen with ⟨pair, same, isPair, isOpen⟩
    cases isPair
    rcases bind_eq_some_iff.1 isOpen with ⟨sizes, same, isSizes, isOpen⟩
    rw [arraySizes_plain plainName (by omega)] at isSizes
    cases isSizes
    cases isOpen
    exact family_customType isCustom

/-- No literal of a type begins here. -/
theorem attempt_typedString (plain : Plain tokens)
    (noType : ∀ word, headWord tokens = some word → word ∉ typeWords) :
    attempt g.typedString tokens = some (none, tokens) := by
  have fails : g.typedString tokens = none := by
    rw [typedString, bind_apply]
    cases isType : g.typeName tokens with
    | none => rfl
    | some found =>
      rcases found with ⟨type, rest⟩
      rw [Option.bind_some, family_typeName plain noType isType]
      rfl
  rw [attempt, fails]

/-! ## Operands that begin with a name -/

variable {words marks : List String} {rest : List Token}

/-- A word that is not reserved leads no form. -/
theorem wordOperand_of_free {word : String} (free : keywordForm word ∉ reservedWords) :
    g.wordOperand word = g.nameOperand ⟨word, none⟩ := by
  unfold wordOperand
  split <;> first | rfl | exact absurd (by simp_all [reservedWords]) free

theorem bareOperand_of_free {word : String} (free : keywordForm word ∉ reservedWords)
    (tokens : List Token) :
    g.bareOperand (.word word :: tokens) = g.nameOperand ⟨word, none⟩ tokens := by
  have isNext : next (.word word :: tokens) = some (.word word, tokens) := rfl
  rw [bareOperand, bind_of_eq isNext]
  exact congrFun (wordOperand_of_free free) tokens

theorem nameOperand_of_begins (name : Identifier) (begins : Begins words marks rest)
    (noDot : "." ∉ marks) (noCall : "(" ∉ marks) :
    g.nameOperand name rest = some (.identifier name, rest) := by
  unfold nameOperand
  cases begins with
  | nil => rfl
  | word text rest isWord => rfl
  | symbol mark rest isMark =>
    have notDot : mark ≠ "." := fun same => noDot (same ▸ isMark)
    have notCall : mark ≠ "(" := fun same => noCall (same ▸ isMark)
    simp [bind_apply, pure_apply, peek, notDot, notCall]

/-- The tokens of a path give its names. -/
theorem objectName_path (name : String) (names : List String) (begins : Begins words marks rest)
    (noDot : "." ∉ marks) (enough : names.length < g.steps) :
    g.objectName (pathTokens (name :: names) ++ rest) =
      some ((name :: names).map fun name => ⟨name, none⟩, rest) := by
  have first : identifier (.word name :: (dotTokens names ++ rest)) =
    some (⟨name, none⟩, dotTokens names ++ rest) := rfl
  have later := repeated_dotted names begins noDot enough
  rw [pathTokens_cons, List.cons_append, objectName, bind_of_eq first, bind_of_eq later]
  rfl

/-- The names of a path are read as such, to the last one. -/
theorem bareOperand_path {names : List String} (nonempty : names ≠ [])
    (areNames : ∀ name ∈ names, IsName name) (begins : Begins words marks rest)
    (noDot : "." ∉ marks) (noCall : "(" ∉ marks) (enough : names.length < g.steps) :
    g.bareOperand (pathTokens names ++ rest) = some (pathExpr names, rest) := by
  rcases names with _ | ⟨name, _ | ⟨next, more⟩⟩
  · exact absurd rfl nonempty
  · have free := (areNames name List.mem_cons_self).free
    exact (bareOperand_of_free free rest).trans (nameOperand_of_begins _ begins noDot noCall)
  · have free := (areNames name List.mem_cons_self).free
    have isDot : peek (dotTokens (next :: more) ++ rest) =
      some (some (.symbol "."), dotTokens (next :: more) ++ rest) := rfl
    have isMore := repeated_dotted (next :: more) begins noDot
      (show (next :: more).length < g.steps by simpa using Nat.lt_of_succ_lt enough)
    rw [pathTokens_cons, List.cons_append, bareOperand_of_free free, nameOperand, bind_of_eq isDot]
    refine (bind_of_eq isMore).trans ?_
    rw [bind_of_eq (begins.noNextSymbol noCall)]
    rfl

end Grammar

end SearchSql.Sql
