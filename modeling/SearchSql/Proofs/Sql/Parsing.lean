import SearchSql.Proofs.Sql.Scanning
import SearchSql.Sql.Parser

/-!
# Parsers on tokens that are known

`Reads parser tokens value rest shallow` says that a parser takes what stands before `rest`, or that
it fails where the condition `shallow` does not hold: a text that is nested too deeply is refused and
nothing else. Parsers that are put together read one after the other, whatever the depth is.

Most parsers of a rule look for something that is not there. `Begins words marks tokens` says with
which words and symbols tokens can begin, and the lemmas below it that a parser that looks for any
other takes nothing.
-/

namespace SearchSql.Sql

open SearchSql.Sql.Parser

/-- The parser gives the value and leaves the rest, or it fails and the condition does not hold. -/
def Reads {α : Type} (parser : Parser α) (tokens : List Token) (value : α) (rest : List Token)
    (shallow : Prop) : Prop :=
  parser tokens = some (value, rest) ∨ parser tokens = none ∧ ¬ shallow

namespace Parser

variable {α β : Type}

theorem bind_apply (parser : Parser α) (next : α → Parser β) (tokens : List Token) :
    (parser >>= next) tokens = (parser tokens).bind fun result => next result.1 result.2 := rfl

theorem pure_apply (value : α) (tokens : List Token) :
    (pure value : Parser α) tokens = some (value, tokens) := rfl

theorem map_apply (f : α → β) (parser : Parser α) (tokens : List Token) :
    (f <$> parser) tokens = (parser tokens).map fun result => (f result.1, result.2) := by
  cases isResult : parser tokens <;> simp [Functor.map, StateT.map, isResult]

theorem guard_apply (condition : Prop) [Decidable condition] (tokens : List Token) :
    (guard condition : Parser Unit) tokens = if condition then some ((), tokens) else none := by
  by_cases holds : condition
  · rw [if_pos holds]
    exact congrFun (if_pos holds) tokens
  · rw [if_neg holds]
    exact congrFun (if_neg holds) tokens

theorem bind_of_eq {parser : Parser α} {next : α → Parser β} {tokens rest : List Token} {value : α}
    (isResult : parser tokens = some (value, rest)) :
    (parser >>= next) tokens = next value rest := by
  rw [bind_apply, isResult, Option.bind_some]

theorem bind_eq {parser : Parser α} {next : α → Parser β} {tokens between : List Token} {value : α}
    {result : Option (β × List Token)} (first : parser tokens = some (value, between))
    (second : next value between = result) : (parser >>= next) tokens = result :=
  (bind_of_eq first).trans second

theorem bind_eq_some_iff {parser : Parser α} {next : α → Parser β} {tokens rest : List Token}
    {result : β} : (parser >>= next) tokens = some (result, rest) ↔
      ∃ value between, parser tokens = some (value, between) ∧
        next value between = some (result, rest) := by
  rw [bind_apply, Option.bind_eq_some_iff, Prod.exists]

theorem guard_eq_some_iff {condition : Prop} [Decidable condition] {tokens rest : List Token}
    {value : Unit} : (guard condition : Parser Unit) tokens = some (value, rest) ↔
      condition ∧ tokens = rest := by
  rw [guard_apply]
  by_cases holds : condition <;> simp [holds]

end Parser

namespace Reads

variable {α β : Type} {parser : Parser α} {tokens between rest : List Token} {value : α}
  {shallow : Prop}

theorem of_eq (isResult : parser tokens = some (value, rest)) :
    Reads parser tokens value rest shallow := .inl isResult

theorem mono {deeper : Prop} (reads : Reads parser tokens value rest deeper)
    (isDeeper : shallow → deeper) : Reads parser tokens value rest shallow :=
  reads.imp_right fun fails => ⟨fails.1, fun isShallow => fails.2 (isDeeper isShallow)⟩

theorem congr {other : Parser α} (same : parser tokens = other between)
    (reads : Reads other between value rest shallow) : Reads parser tokens value rest shallow := by
  rwa [Reads, same]

theorem bind {next : α → Parser β} {result : β}
    (first : Reads parser tokens value between shallow)
    (second : Reads (next value) between result rest shallow) :
    Reads (parser >>= next) tokens result rest shallow := by
  rcases first with isFirst | ⟨fails, tooDeep⟩
  · rwa [Reads, bind_of_eq isFirst]
  · exact .inr ⟨by rw [bind_apply, fails, Option.bind_none], tooDeep⟩

/-- A parser that is known to give a value, before one that reads. -/
theorem skip {next : α → Parser β} {result : β} (first : parser tokens = some (value, between))
    (second : Reads (next value) between result rest shallow) :
    Reads (parser >>= next) tokens result rest shallow := bind (.of_eq first) second

theorem map (f : α → β) (reads : Reads parser tokens value rest shallow) :
    Reads (f <$> parser) tokens (f value) rest shallow := by
  rcases reads with isResult | ⟨fails, tooDeep⟩
  · exact .inl (by rw [map_apply, isResult, Option.map_some])
  · exact .inr ⟨by rw [map_apply, fails, Option.map_none], tooDeep⟩

theorem afterKeyword {word text : String} (isWord : keywordForm text = word)
    (reads : Reads parser tokens value rest shallow) :
    Reads (after? word parser) (.word text :: tokens) (some value) rest shallow := by
  have taken : keyword? word (.word text :: tokens) = some (true, tokens) := by
    rw [keyword?, if_pos isWord]
  exact skip taken (map some reads)

end Reads

theorem afterKeywords?_append {words : List String} (isForm : ∀ word ∈ words, keywordForm word = word)
    (tokens : List Token) :
    afterKeywords? words (words.map Token.word ++ tokens) = some tokens := by
  induction words with
  | nil => rfl
  | cons word words ih =>
    rcases List.forall_mem_cons.1 isForm with ⟨here, later⟩
    rw [List.map_cons, List.cons_append, afterKeywords?, if_pos here, ih later]

theorem keywords?_append {words : List String} (isForm : ∀ word ∈ words, keywordForm word = word)
    (tokens : List Token) :
    keywords? words (words.map Token.word ++ tokens) = some (true, tokens) := by
  rw [keywords?, afterKeywords?_append isForm]

theorem Reads.afterKeywords {α : Type} {parser : Parser α} {words : List String}
    {tokens rest : List Token} {value : α} {shallow : Prop}
    (isForm : ∀ word ∈ words, keywordForm word = word)
    (reads : Reads parser tokens value rest shallow) :
    Reads (afterWords? words parser) (words.map Token.word ++ tokens) (some value) rest shallow :=
  skip (keywords?_append isForm tokens) (map some reads)

/-! ## What tokens begin with -/

/-- The form of the first token as a keyword, if it is a word. -/
def headWord (tokens : List Token) : Option String := tokens.head?.bind Token.keyword?

section Absent

variable {word mark : String} {wanted : List String} {tokens : List Token}

theorem keyword?_absent (absent : headWord tokens ≠ some word) :
    keyword? word tokens = some (false, tokens) := by
  unfold keyword?
  split
  next text rest =>
    rw [if_neg]
    rintro rfl
    exact absent rfl
  next => rfl

theorem keywords?_absent (absent : headWord tokens ≠ some word) (others : List String) :
    keywords? (word :: others) tokens = some (false, tokens) := by
  have isNone : afterKeywords? (word :: others) tokens = none := by
    unfold afterKeywords?
    split
    next => contradiction
    next first more text rest isWords =>
      cases isWords
      rw [if_neg]
      rintro rfl
      exact absent rfl
    next => rfl
  rw [keywords?, isNone]

theorem oneOf?_absent (absent : ∀ word, headWord tokens = some word → word ∉ wanted) :
    oneOf? wanted tokens = some (none, tokens) := by
  unfold oneOf?
  split
  next text rest => rw [if_neg (by simpa using absent (keywordForm text) rfl)]
  next => rfl

theorem symbol?_absent (absent : tokens.head? ≠ some (.symbol mark)) :
    symbol? mark tokens = some (false, tokens) := by
  unfold symbol?
  split
  next other rest =>
    rw [if_neg]
    rintro rfl
    exact absent rfl
  next => rfl

theorem symbol_absent (absent : tokens.head? ≠ some (.symbol mark)) : symbol mark tokens = none :=
  bind_eq (symbol?_absent absent) rfl

theorem nextIsSymbol_absent (absent : tokens.head? ≠ some (.symbol mark)) :
    nextIsSymbol mark tokens = some (false, tokens) := by
  have isFalse : decide (tokens.head? = some (.symbol mark)) = false := decide_eq_false absent
  rw [nextIsSymbol, bind_of_eq (show peek tokens = some (tokens.head?, tokens) from rfl), isFalse]
  rfl

end Absent

/-- The tokens begin with one of the words or one of the symbols, if there are any. -/
inductive Begins (words marks : List String) : List Token → Prop
  | nil : Begins words marks []
  | word (text : String) (rest : List Token) (isWord : keywordForm text ∈ words) :
      Begins words marks (.word text :: rest)
  | symbol (mark : String) (rest : List Token) (isMark : mark ∈ marks) :
      Begins words marks (.symbol mark :: rest)

namespace Begins

variable {α : Type} {words marks wanted : List String} {tokens : List Token} {word mark : String}
  {parser : Parser α}

theorem mono {moreWords moreMarks : List String} (begins : Begins words marks tokens)
    (subWords : words ⊆ moreWords) (subMarks : marks ⊆ moreMarks) :
    Begins moreWords moreMarks tokens := by
  cases begins with
  | nil => exact .nil
  | word text rest isWord => exact .word text rest (subWords isWord)
  | symbol mark rest isMark => exact .symbol mark rest (subMarks isMark)

theorem mem_of_headWord (begins : Begins words marks tokens) (isWord : headWord tokens = some word) :
    word ∈ words := by
  cases begins with
  | nil => cases isWord
  | word text rest isMember => cases isWord; exact isMember
  | symbol mark rest isMark => cases isWord

theorem mem_of_headSymbol (begins : Begins words marks tokens)
    (isMark : tokens.head? = some (.symbol mark)) : mark ∈ marks := by
  cases begins with
  | nil => cases isMark
  | word text rest isWord => cases isMark
  | symbol mark rest isMember => cases isMark; exact isMember

theorem noKeyword (begins : Begins words marks tokens) (absent : word ∉ words) :
    keyword? word tokens = some (false, tokens) :=
  keyword?_absent fun isWord => absent (begins.mem_of_headWord isWord)

theorem noKeywords (begins : Begins words marks tokens) (absent : word ∉ words)
    (others : List String) : keywords? (word :: others) tokens = some (false, tokens) :=
  keywords?_absent (fun isWord => absent (begins.mem_of_headWord isWord)) others

theorem noneOf (begins : Begins words marks tokens) (absent : ∀ word ∈ words, word ∉ wanted) :
    oneOf? wanted tokens = some (none, tokens) :=
  oneOf?_absent fun word isWord => absent word (begins.mem_of_headWord isWord)

theorem noSymbol (begins : Begins words marks tokens) (absent : mark ∉ marks) :
    symbol? mark tokens = some (false, tokens) :=
  symbol?_absent fun isMark => absent (begins.mem_of_headSymbol isMark)

theorem noNextSymbol (begins : Begins words marks tokens) (absent : mark ∉ marks) :
    nextIsSymbol mark tokens = some (false, tokens) :=
  nextIsSymbol_absent fun isMark => absent (begins.mem_of_headSymbol isMark)

theorem noAfter (begins : Begins words marks tokens) (absent : word ∉ words) :
    after? word parser tokens = some (none, tokens) := by
  rw [after?, bind_of_eq (begins.noKeyword absent)]
  rfl

theorem noAfterWords (begins : Begins words marks tokens) (absent : word ∉ words)
    {others : List String} : afterWords? (word :: others) parser tokens = some (none, tokens) := by
  rw [afterWords?, bind_of_eq (begins.noKeywords absent others)]
  rfl

end Begins

/-! ## Lists -/

/-- Whether tokens hold neither an index nor an argument that is given by name. -/
def Plain (tokens : List Token) : Prop :=
  ∀ token ∈ tokens, token ∉ [Token.symbol "[", .symbol "=>", .symbol ":="]

@[simp]
theorem plain_nil : Plain [] := by simp [Plain]

@[simp]
theorem plain_cons {token : Token} {tokens : List Token} :
    Plain (token :: tokens) ↔
      token ∉ [Token.symbol "[", .symbol "=>", .symbol ":="] ∧ Plain tokens :=
  List.forall_mem_cons

@[simp]
theorem plain_append {first second : List Token} :
    Plain (first ++ second) ↔ Plain first ∧ Plain second := List.forall_mem_append

theorem plain_commaTokens {parts : List (List Token)} (plain : ∀ part ∈ parts, Plain part) :
    Plain (commaTokens parts) := by
  induction parts with
  | nil => exact plain_nil
  | cons part parts ih =>
    rcases List.forall_mem_cons.1 plain with ⟨here, later⟩
    cases parts with
    | nil => exact here
    | cons next parts => simpa [commaTokens, here] using ih later

theorem length_le_commaTokens (parts : List (List Token)) :
    parts.length ≤ (commaTokens parts).length + 1 := by
  induction parts with
  | nil => simp
  | cons part parts ih =>
    cases parts with
    | nil => simp
    | cons next parts =>
      simp only [commaTokens, List.length_append, List.length_cons] at ih ⊢
      omega

theorem length_le_of_mem_commaTokens {part : List Token} {parts : List (List Token)}
    (isPart : part ∈ parts) : part.length ≤ (commaTokens parts).length := by
  induction parts with
  | nil => cases isPart
  | cons first parts ih =>
    cases parts with
    | nil =>
      rw [List.mem_singleton.1 isPart]
      exact Nat.le_refl _
    | cons next parts =>
      simp only [commaTokens, List.length_append, List.length_cons] at ih ⊢
      rcases List.mem_cons.1 isPart with rfl | isLater
      · omega
      · have later := ih isLater
        omega

theorem repeated_none {α : Type} {parser : Parser (Option α)} {tokens : List Token} {steps : Nat}
    (finds : parser tokens = some (none, tokens)) (enough : 0 < steps) :
    repeated steps parser tokens = some ([], tokens) := by
  cases steps with
  | zero => omega
  | succ steps =>
    rw [repeated, bind_of_eq finds]
    rfl

theorem Reads.commaLast {α : Type} {parser : Parser α} {tokens rest : List Token} {value : α}
    {shallow : Prop} {steps : Nat} (reads : Reads parser tokens value rest shallow)
    (noComma : symbol? "," rest = some (false, rest)) (enough : 0 < steps) :
    Reads (Parser.commaSeparated steps parser) tokens [value] rest shallow := by
  cases steps with
  | zero => omega
  | succ steps => exact bind reads (skip noComma (.of_eq rfl))

/-- Terms with commas between them, each of which can be read before a comma and at the end. -/
theorem Reads.commaSeparated {α β : Type} {parser : Parser α} {words marks : List String}
    {shallow : Prop} (items : List β) (itemTokens : β → List Token) (value : β → α)
    (plainItems : ∀ item ∈ items, Plain (itemTokens item))
    (reads : ∀ item ∈ items, ∀ rest, Begins words ("," :: marks) rest → Plain rest →
      Reads parser (itemTokens item ++ rest) (value item) rest shallow)
    (nonempty : items ≠ []) (absent : "," ∉ marks) {rest : List Token}
    (begins : Begins words marks rest) (plain : Plain rest) {steps : Nat}
    (enough : items.length ≤ steps) :
    Reads (Parser.commaSeparated steps parser) (commaTokens (items.map itemTokens) ++ rest)
      (items.map value) rest shallow := by
  induction items generalizing steps with
  | nil => exact absurd rfl nonempty
  | cons item items ih =>
    rw [List.length_cons] at enough
    rcases List.forall_mem_cons.1 reads with ⟨readsHere, readsLater⟩
    rcases List.forall_mem_cons.1 plainItems with ⟨-, plainLater⟩
    cases items with
    | nil =>
      have first := readsHere rest (begins.mono (fun _ isWord => isWord) (by simp)) plain
      exact first.commaLast (begins.noSymbol absent) (by omega)
    | cons next items =>
      cases steps with
      | zero => omega
      | succ steps =>
        have fewer : (next :: items).length ≤ steps := by omega
        have later := ih plainLater readsLater (by simp) fewer
        have plainTerms : Plain (commaTokens ((next :: items).map itemTokens)) :=
          plain_commaTokens (List.forall_mem_map.2 plainLater)
        have first := readsHere
          (.symbol "," :: (commaTokens ((next :: items).map itemTokens) ++ rest))
          (.symbol "," _ List.mem_cons_self)
          (plain_cons.2 ⟨by decide, plain_append.2 ⟨plainTerms, plain⟩⟩)
        rw [Parser.commaSeparated, List.map_cons, List.map_cons, commaTokens, List.append_assoc,
          List.cons_append]
        · exact bind first (skip rfl (bind later (.of_eq rfl)))
        · simp

end SearchSql.Sql
