import SearchSql.Query.SqlText
import SearchSql.Sql.Token.Lexer

/-!
# Reading back tokens from their text

`Writes text tokens` says that a text is read as these tokens wherever it is followed by a blank, a
comma, a closing bracket or nothing, whatever comes behind that. The texts of names, numbers,
strings and operators are such texts, and they are put together by `Writes.spaced`,
`Writes.bracketed` and `Writes.commas`, which is how all SQL text is put together here.

A token may be longer than its text shows until the next character is seen, so that each lemma asks
what stands behind. `Stops` is the weakest answer that all of them can live with.
-/

namespace SearchSql.Sql

/-- The text is read as these tokens, with any number of steps that is no less than its length. -/
def Scans (text : List Char) (tokens : List Token) : Prop :=
  ∀ steps, text.length ≤ steps → Token.scanFrom steps text = some tokens

/-- What may stand behind a token without becoming a part of it. -/
def Stops (text : List Char) : Prop :=
  ∀ c, text.head? = some c → c = ' ' ∨ c = ',' ∨ c = ')'

/-- The text is read as these tokens, and what is behind it as it would be alone. -/
def Writes (text : List Char) (tokens : List Token) : Prop :=
  ∀ rest more, Stops rest → Scans rest more → Scans (text ++ rest) (tokens ++ more)

/-- The signs that may begin a word but are symbols when they stand alone. -/
def loneSigns : List (List Char) := [['#'], ['@'], ['@', '@']]

/-- A word that is read as such. -/
def isPlainWord : List Char → Bool
  | [] => false
  | c :: rest => startsWord c && rest.all continuesWord && !loneSigns.contains (c :: rest)

theorem stops_nil : Stops [] := by simp [Stops]

theorem stops_blank (text : List Char) : Stops (' ' :: text) := by simp [Stops]

theorem stops_comma (text : List Char) : Stops (',' :: text) := by simp [Stops]

theorem stops_close (text : List Char) : Stops (')' :: text) := by simp [Stops]

namespace Scans

variable {c : Char} {rest after : List Char} {token : Token} {tokens : List Token}

theorem nil : Scans [] [] := fun steps _ => by cases steps <;> rfl

theorem token_cons (first : lexeme c rest = some (some token, after))
    (shorter : after.length ≤ rest.length) (later : Scans after tokens) :
    Scans (c :: rest) (token :: tokens) := by
  intro steps enough
  rw [List.length_cons] at enough
  cases steps with
  | zero => omega
  | succ steps =>
    have isLater := later steps (by omega)
    simp only [Token.scanFrom, first, isLater, Option.map_some]

theorem blank_cons (later : Scans rest tokens) : Scans (' ' :: rest) tokens := by
  intro steps enough
  rw [List.length_cons] at enough
  cases steps with
  | zero => omega
  | succ steps =>
    have isBlank : lexeme ' ' rest = some (none, rest) := rfl
    simp only [Token.scanFrom, isBlank, later steps (by omega)]

end Scans

section Characters

variable {c : Char}

theorem toNat_of_isAlpha (alpha : c.isAlpha = true) : 65 ≤ c.toNat ∧ c.toNat ≤ 122 := by
  delta Char.isAlpha Char.isUpper Char.isLower at alpha
  simp only [Bool.or_eq_true, Bool.and_eq_true, decide_eq_true_eq, UInt32.le_iff_toNat_le,
    ge_iff_le] at alpha
  have isValue : c.toNat = c.val.toNat := rfl
  rcases alpha with upper | lower
  · simp at upper
    omega
  · simp at lower
    omega

theorem toNat_of_isDigit (digit : c.isDigit = true) : 48 ≤ c.toNat ∧ c.toNat ≤ 57 := by
  simp only [Char.isDigit, Bool.and_eq_true, decide_eq_true_eq, UInt32.le_iff_toNat_le,
    ge_iff_le] at digit
  have isValue : c.toNat = c.val.toNat := rfl
  simp at digit
  omega

/-- An alphabetic character is a letter of ASCII or beyond ASCII and no blank. -/
theorem toNat_of_isAlphabetic (alphabetic : Text.isAlphabetic c = true) :
    (65 ≤ c.toNat ∧ c.toNat ≤ 122) ∨ (0x80 ≤ c.toNat ∧ Text.isBlank c = false) := by
  unfold Text.isAlphabetic at alphabetic
  split at alphabetic
  · exact .inl (toNat_of_isAlpha alphabetic)
  next beyond =>
    refine .inr ⟨by omega, ?_⟩
    rw [Bool.eq_false_iff]
    intro blank
    rcases (Text.inRanges_iff _ _).1 blank with ⟨gap, isGap, fromGap, toGap⟩
    rcases (Text.inRanges_iff _ _).1 alphabetic with ⟨range, isRange, fromRange, toRange⟩
    have apart : ∀ gap ∈ Text.blankRanges, ∀ range ∈ Text.alphabeticRanges,
        range.2 < gap.1 ∨ gap.2 < range.1 := by decide +kernel
    rcases apart gap isGap range isRange with below | above <;> omega

theorem not_isBlank (printed : 33 ≤ c.toNat ∧ c.toNat < 0x80) : Text.isBlank c = false := by
  rw [Bool.eq_false_iff]
  intro blank
  rcases (Text.inRanges_iff _ _).1 blank with ⟨gap, isGap, fromGap, toGap⟩
  have apart : ∀ gap ∈ Text.blankRanges, gap.2 < 33 ∨ 0x80 ≤ gap.1 := by decide
  rcases apart gap isGap with below | above <;> omega

/-- What is said of the first character of a word by the tests that come before that for a word. -/
structure StartsName (c : Char) : Prop where
  noBlank : Text.isBlank c = false
  noDigit : c.isDigit = false
  others : ∀ other ∈ ['\'', '"', '\x60', '.'], c ≠ other

theorem startsName_of_startsWord (starts : startsWord c = true) : StartsName c := by
  simp only [startsWord, Bool.or_eq_true, beq_iff_eq] at starts
  rcases starts with ((alphabetic | rfl) | rfl) | rfl
  · have range := toNat_of_isAlphabetic alphabetic
    refine ⟨?_, ?_, ?_⟩
    · rcases range with ascii | beyond
      · exact not_isBlank ⟨by omega, by omega⟩
      · exact beyond.2
    · rw [Bool.eq_false_iff]
      intro digit
      have := toNat_of_isDigit digit
      omega
    · rintro other isOther rfl
      have noLetters : ['\'', '"', '\x60', '.'].all (!Text.isAlphabetic ·) = true := by decide
      have noLetter := List.all_eq_true.1 noLetters c isOther
      rw [alphabetic] at noLetter
      cases noLetter
  all_goals
    refine ⟨by decide, by decide, ?_⟩
    rintro other isOther rfl
    exact absurd isOther (by decide)

end Characters

/-- No letter leads a literal unless a quote, or the sign of a Unicode string, stands behind it. -/
theorem letteredLexeme_eq_none {letter : Char} {rest : List Char}
    (noQuote : ∀ c, rest.head? = some c → c ≠ '\'' ∧ c ≠ '"' ∧ c ≠ '&') :
    letteredLexeme letter rest = none := by
  cases rest with
  | nil => unfold letteredLexeme; split <;> simp_all
  | cons c rest =>
    have here := noQuote c rfl
    unfold letteredLexeme
    split <;> simp_all

section Words

variable {word rest text : List Char} {c : Char} {tokens : List Token}

theorem startsName_of_plain (plain : isPlainWord (c :: rest) = true) : StartsName c := by
  simp only [isPlainWord, Bool.and_eq_true] at plain
  exact startsName_of_startsWord plain.1.1

/-- What may stand behind a word without becoming a part of it. -/
def EndsWord (text : List Char) : Prop :=
  ∀ c, text.head? = some c → c = ' ' ∨ c = ',' ∨ c = ')' ∨ c = '(' ∨ c = '.'

theorem Stops.endsWord (stops : Stops text) : EndsWord text := by
  intro c isHead
  rcases stops c isHead with isBlank | isComma | isClose
  · exact .inl isBlank
  · exact .inr (.inl isComma)
  · exact .inr (.inr (.inl isClose))

theorem not_continuesWord_of_endsWord (ends : EndsWord text) (isHead : text.head? = some c) :
    continuesWord c = false := by
  rcases ends c isHead with rfl | rfl | rfl | rfl | rfl <;> decide

theorem takeWhile_append_of_all {p : Char → Bool} {front back : List Char}
    (all : front.all p = true) (stops : ∀ c, back.head? = some c → p c = false) :
    (front ++ back).takeWhile p = front ∧ (front ++ back).dropWhile p = back := by
  induction front with
  | nil =>
    cases back with
    | nil => simp
    | cons c back => simp [stops c rfl]
  | cons c front ih =>
    rw [List.all_cons, Bool.and_eq_true] at all
    simp [all.1, ih all.2]

theorem wordLexeme_append (start : List Char) (continues : rest.all continuesWord = true)
    (ends : EndsWord text) :
    wordLexeme start (rest ++ text) = (some (.word (String.ofList (start ++ rest))), text) := by
  have whole := takeWhile_append_of_all continues fun c isHead =>
    not_continuesWord_of_endsWord ends isHead
  rw [wordLexeme, whole.1, whole.2]

theorem hashLexeme_append (nonempty : rest ≠ []) (continues : rest.all continuesWord = true)
    (ends : EndsWord text) :
    hashLexeme (rest ++ text) = (some (.word (String.ofList ('#' :: rest))), text) := by
  cases rest with
  | nil => exact absurd rfl nonempty
  | cons c rest =>
    rw [List.all_cons, Bool.and_eq_true] at continues
    have noSymbol : ¬ (c = '-' ∨ c = '>' ∨ c = ' ') := by
      rintro (rfl | rfl | rfl) <;> exact absurd continues.1 (by decide)
    rw [List.cons_append, hashLexeme, if_neg noSymbol]
    exact wordLexeme_append ['#', c] continues.2 ends

theorem atLexeme_append (nonempty : rest ≠ []) (noSymbol : rest ≠ ['@'])
    (continues : rest.all continuesWord = true) (ends : EndsWord text) :
    atLexeme (rest ++ text) = (some (.word (String.ofList ('@' :: rest))), text) := by
  cases rest with
  | nil => exact absurd rfl nonempty
  | cons c rest =>
    rw [List.all_cons, Bool.and_eq_true] at continues
    by_cases isAt : c = '@'
    · subst isAt
      cases rest with
      | nil => exact absurd rfl noSymbol
      | cons d rest =>
        rw [List.all_cons, Bool.and_eq_true] at continues
        have noBlank : d ≠ ' ' := by
          rintro rfl
          exact absurd continues.2.1 (by decide)
        rw [List.cons_append, List.cons_append, atLexeme]
        · exact wordLexeme_append ['@', '@', d] continues.2.2 ends
        · simpa using noBlank
    · have noMark : ¬ (c = '>' ∨ c = '?' ∨ c = ' ') := by
        rintro (rfl | rfl | rfl) <;> exact absurd continues.1 (by decide)
      rw [List.cons_append, atLexeme, if_neg noMark]
      · exact wordLexeme_append ['@', c] continues.2 ends
      all_goals simp [isAt]

theorem scans_word (plain : isPlainWord word = true) (ends : EndsWord text)
    (later : Scans text tokens) :
    Scans (word ++ text) (.word (String.ofList word) :: tokens) := by
  cases word with
  | nil => cases plain
  | cons c rest =>
    simp only [isPlainWord, Bool.and_eq_true] at plain
    rcases plain with ⟨⟨starts, continues⟩, noSymbol⟩
    have startsName := startsName_of_startsWord starts
    have noQuote : ∀ d, (rest ++ text).head? = some d → d ≠ '\'' ∧ d ≠ '"' ∧ d ≠ '&' := by
      intro d isHead
      cases rest with
      | nil => rcases ends d isHead with rfl | rfl | rfl | rfl | rfl <;> decide
      | cons e rest =>
        cases isHead
        rw [List.all_cons, Bool.and_eq_true] at continues
        refine ⟨?_, ?_, ?_⟩ <;> rintro rfl <;> exact absurd continues.1 (by decide)
    have others := startsName.others
    simp only [List.mem_cons, List.not_mem_nil, or_false, forall_eq_or_imp, forall_eq] at others
    have first : lexeme c (rest ++ text) =
        some (some (.word (String.ofList (c :: rest))), text) := by
      simp only [lexeme, startsName.noBlank, letteredLexeme_eq_none noQuote, others,
        startsName.noDigit, starts, Bool.false_eq_true, if_false, if_true, or_self]
      by_cases isHash : c = '#'
      · subst isHash
        have nonempty : rest ≠ [] := by rintro rfl; cases noSymbol
        rw [if_pos rfl, hashLexeme_append nonempty continues ends]
      · rw [if_neg isHash]
        by_cases isAt : c = '@'
        · subst isAt
          have nonempty : rest ≠ [] := by rintro rfl; cases noSymbol
          have noPair : rest ≠ ['@'] := by rintro rfl; cases noSymbol
          rw [if_pos rfl, atLexeme_append nonempty noPair continues ends]
        · rw [if_neg isAt, wordLexeme_append [c] continues ends]
          rfl
    exact Scans.token_cons first (by simp) later

end Words

/-- The operators that stand between two operands of a predicate. -/
def infixSymbols : List String := ["+", "-", "*", "/", "%", "=", "<>", "<", "<=", ">", ">="]

theorem Stops.cases {text : List Char} (stops : Stops text) :
    text = [] ∨ ∃ rest, text = ' ' :: rest ∨ text = ',' :: rest ∨ text = ')' :: rest := by
  cases text with
  | nil => exact .inl rfl
  | cons c rest =>
    refine .inr ⟨rest, ?_⟩
    rcases stops c rfl with rfl | rfl | rfl
    · exact .inl rfl
    · exact .inr (.inl rfl)
    · exact .inr (.inr rfl)

theorem lexeme_infixSymbol {op : String} (isOp : op ∈ infixSymbols) {rest : List Char}
    (stops : Stops rest) : ∃ c chars, op.toList = c :: chars ∧
      lexeme c (chars ++ rest) = some (some (.symbol op), rest) := by
  simp only [infixSymbols, List.mem_cons, List.not_mem_nil, or_false] at isOp
  rcases isOp with rfl | rfl | rfl | rfl | rfl | rfl | rfl | rfl | rfl | rfl | rfl <;>
  · refine ⟨_, _, rfl, ?_⟩
    rcases stops.cases with rfl | ⟨_, rfl | rfl | rfl⟩ <;> rfl

/-- A string in quotes, each quote inside being written twice. -/
theorem quotedBody_quoteDoubled (text : List Char) {rest : List Char}
    (closes : rest.head? ≠ some '\'') :
    quotedBody '\'' 0 (quoteDoubled text ++ '\'' :: rest) = some (text, rest) := by
  induction text with
  | nil => simp [quoteDoubled, quotedBody, closes]
  | cons c text ih =>
    by_cases isQuote : c = '\''
    · simp [quoteDoubled, quotedBody, isQuote, ih, Body.push]
    · simp [quoteDoubled, quotedBody, isQuote, ih, Body.push]

/-- The digits of a number with its point. -/
inductive IsPointed : List Char → Prop
  | whole (digits : List Char) (nonempty : digits ≠ []) (areDigits : digits.all Char.isDigit = true) :
      IsPointed digits
  | pointed (digits fraction : List Char) (nonempty : digits ≠ [] ∨ fraction ≠ [])
      (areDigits : digits.all Char.isDigit = true)
      (fractionDigits : fraction.all Char.isDigit = true) :
      IsPointed (digits ++ '.' :: fraction)

/-- The power of ten that a number may end with. -/
inductive IsExponent : List Char → Prop
  | absent : IsExponent []
  | present (mark : Char) (sign digits : List Char) (isMark : mark = 'e' ∨ mark = 'E')
      (isSign : sign = [] ∨ sign = ['+'] ∨ sign = ['-']) (nonempty : digits ≠ [])
      (areDigits : digits.all Char.isDigit = true) :
      IsExponent (mark :: (sign ++ digits))

/-- A decimal number without a sign. -/
def IsDecimal (text : List Char) : Prop :=
  ∃ pointed power, text = pointed ++ power ∧ IsPointed pointed ∧ IsExponent power

section Numbers

variable {pointed power text : List Char}

theorem head?_exponent_append (isPower : IsExponent power) (stops : Stops text) {c : Char}
    (isHead : (power ++ text).head? = some c) :
    c = 'e' ∨ c = 'E' ∨ c = ' ' ∨ c = ',' ∨ c = ')' := by
  cases isPower with
  | absent =>
    rcases stops c isHead with isBlank | isComma | isClose
    · exact .inr (.inr (.inl isBlank))
    · exact .inr (.inr (.inr (.inl isComma)))
    · exact .inr (.inr (.inr (.inr isClose)))
  | present mark sign digits isMark =>
    cases isHead
    rcases isMark with isMark | isMark
    · exact .inl isMark
    · exact .inr (.inl isMark)

theorem noDigit_exponent_append (isPower : IsExponent power) (stops : Stops text) (c : Char)
    (isHead : (power ++ text).head? = some c) : c.isDigit = false := by
  rcases head?_exponent_append isPower stops isHead with rfl | rfl | rfl | rfl | rfl <;> decide

theorem exponentLength_append (isPower : IsExponent power) (stops : Stops text) :
    exponentLength (power ++ text) = power.length := by
  have noDigit : ∀ c, text.head? = some c → c.isDigit = false :=
    noDigit_exponent_append .absent stops
  cases isPower with
  | absent => rcases stops.cases with rfl | ⟨_, rfl | rfl | rfl⟩ <;> rfl
  | present mark sign digits isMark isSign nonempty areDigits =>
    have taken := (takeWhile_append_of_all areDigits noDigit).1
    have notNone : digits.length ≠ 0 := fun isNil => nonempty (List.length_eq_zero_iff.1 isNil)
    have counted : ∀ sign : Nat,
        (if ((digits ++ text).takeWhile Char.isDigit).length = 0 then 0
          else 1 + sign + ((digits ++ text).takeWhile Char.isDigit).length) =
        1 + sign + digits.length := by
      intro sign
      rw [taken, if_neg notNone]
    rcases isSign with rfl | rfl | rfl
    · cases digits with
      | nil => exact absurd rfl nonempty
      | cons c more =>
        rw [List.all_cons, Bool.and_eq_true] at areDigits
        have noPlus : c ≠ '+' := by rintro rfl; exact absurd areDigits.1 (by decide)
        have noMinus : c ≠ '-' := by rintro rfl; exact absurd areDigits.1 (by decide)
        have noSign := counted 0
        simp only [List.nil_append, List.cons_append, exponentLength, isMark, if_true,
          List.head?_cons] at noSign ⊢
        simp only [noPlus, noMinus, Option.some.injEq, imp_self, List.drop_zero,
          noSign, List.length_cons]
        omega
    · have plus := counted 1
      simp only [List.cons_append, List.nil_append, exponentLength, isMark, if_true,
        List.head?_cons, List.drop_succ_cons, List.drop_zero, plus, List.length_cons]
      omega
    · have minus := counted 1
      simp only [List.cons_append, List.nil_append, exponentLength, isMark, if_true,
        List.head?_cons, List.drop_succ_cons, List.drop_zero, minus, List.length_cons]
      omega

theorem pointedLength_append (isPointed : IsPointed pointed) (isPower : IsExponent power)
    (stops : Stops text) : pointedLength (pointed ++ (power ++ text)) = pointed.length := by
  have noDigit := noDigit_exponent_append isPower stops
  cases isPointed with
  | whole digits nonempty areDigits =>
    have taken := (takeWhile_append_of_all areDigits noDigit).1
    have noPoint : (power ++ text).head? ≠ some '.' := by
      intro isPoint
      rcases head?_exponent_append isPower stops isPoint with h | h | h | h | h <;> cases h
    simp only [pointedLength, taken, List.drop_left, if_neg noPoint]
  | pointed digits fraction nonempty areDigits fractionDigits =>
    have atPoint : ∀ c, ('.' :: (fraction ++ (power ++ text))).head? = some c →
        c.isDigit = false := by
      rintro c ⟨⟩
      decide
    have taken := (takeWhile_append_of_all areDigits atPoint).1
    have takenFraction := (takeWhile_append_of_all fractionDigits noDigit).1
    have behind : (digits ++ '.' :: (fraction ++ (power ++ text))).drop (digits.length + 1) =
        fraction ++ (power ++ text) := by
      rw [← List.drop_drop, List.drop_left]
      rfl
    simp only [pointedLength, List.append_assoc, List.cons_append, taken, List.drop_left,
      List.head?_cons, if_true, behind, takenFraction, List.length_append, List.length_cons]
    omega

/-- A number begins with a digit, or with a point before a digit. -/
theorem IsPointed.first (isPointed : IsPointed pointed) :
    (∃ c rest, pointed = c :: rest ∧ c.isDigit = true) ∨
      ∃ c rest, pointed = '.' :: c :: rest ∧ c.isDigit = true := by
  cases isPointed with
  | whole digits nonempty areDigits =>
    cases pointed with
    | nil => exact absurd rfl nonempty
    | cons c rest =>
      rw [List.all_cons, Bool.and_eq_true] at areDigits
      exact .inl ⟨c, rest, rfl, areDigits.1⟩
  | pointed digits fraction nonempty areDigits fractionDigits =>
    cases digits with
    | nil =>
      cases fraction with
      | nil => simp at nonempty
      | cons c rest =>
        rw [List.all_cons, Bool.and_eq_true] at fractionDigits
        exact .inr ⟨c, rest, rfl, fractionDigits.1⟩
    | cons c rest =>
      rw [List.all_cons, Bool.and_eq_true] at areDigits
      exact .inl ⟨c, rest ++ '.' :: fraction, rfl, areDigits.1⟩

/-- The second character of a number is none that would make it hexadecimal. -/
theorem noHex_append (isPointed : IsPointed pointed) (isPower : IsExponent power)
    (stops : Stops text) : ((pointed ++ (power ++ text)).drop 1).head? ≠ some 'x' := by
  have behind : ∀ digits : List Char, digits.all Char.isDigit = true → ∀ more : List Char,
      more.head? ≠ some 'x' → (digits ++ more).head? ≠ some 'x' := by
    intro digits areDigits more noX
    cases digits with
    | nil => exact noX
    | cons c digits =>
      rintro ⟨⟩
      exact absurd areDigits (by simp)
  have noX : (power ++ text).head? ≠ some 'x' := by
    intro isX
    rcases head?_exponent_append isPower stops isX with h | h | h | h | h <;> cases h
  cases isPointed with
  | whole digits nonempty areDigits =>
    cases pointed with
    | nil => exact absurd rfl nonempty
    | cons c rest =>
      rw [List.all_cons, Bool.and_eq_true] at areDigits
      exact behind rest areDigits.2 _ noX
  | pointed digits fraction nonempty areDigits fractionDigits =>
    cases digits with
    | nil => exact behind fraction fractionDigits _ noX
    | cons c rest =>
      rw [List.all_cons, Bool.and_eq_true] at areDigits
      rw [List.append_assoc]
      exact behind rest areDigits.2 _ (by simp)

theorem numberLexeme_append (isPointed : IsPointed pointed) (isPower : IsExponent power)
    (stops : Stops text) :
    numberLexeme (pointed ++ (power ++ text)) =
      (some (.number (String.ofList (pointed ++ power)) false), text) := by
  have isLength := pointedLength_append isPointed isPower stops
  have isExponent := exponentLength_append isPower stops
  have noHex : ¬ ((pointed ++ (power ++ text)).takeWhile Char.isDigit = ['0'] ∧
      ((pointed ++ (power ++ text)).drop 1).head? = some 'x') :=
    fun isHex => noHex_append isPointed isPower stops isHex.2
  have noDot : pointed ≠ ['.'] := by
    rintro rfl
    rcases isPointed.first with ⟨c, rest, isDot, isDigit⟩ | ⟨c, rest, isDot, -⟩
    · cases isDot
      exact absurd isDigit (by decide)
    · cases isDot
  have whole : (pointed ++ (power ++ text)).take (pointed.length + power.length) =
      pointed ++ power := by
    rw [← List.append_assoc, ← List.length_append, List.take_left]
  have behind : (pointed ++ (power ++ text)).drop (pointed.length + power.length) = text := by
    rw [← List.append_assoc, ← List.length_append, List.drop_left]
  simp only [numberLexeme, if_neg noHex, isLength, List.take_left, if_neg noDot, List.drop_left,
    isExponent, whole, behind]
  rcases stops.cases with rfl | ⟨_, rfl | rfl | rfl⟩ <;> rfl

/-- A dot that no digit follows is a symbol. -/
theorem numberLexeme_dot (noDigit : ∀ c, text.head? = some c → c.isDigit = false) :
    numberLexeme ('.' :: text) = (some (.symbol "."), text) := by
  have noFraction : text.takeWhile Char.isDigit = [] := by
    cases text with
    | nil => rfl
    | cons c text => simp [noDigit c rfl]
  simp [numberLexeme, pointedLength, noFraction]

theorem mem_of_isDigit {c : Char} (digit : c.isDigit = true) :
    c ∈ ['0', '1', '2', '3', '4', '5', '6', '7', '8', '9'] := by
  have range := toNat_of_isDigit digit
  have all : ∀ n ∈ List.range 10,
      Char.ofNat (48 + n) ∈ ['0', '1', '2', '3', '4', '5', '6', '7', '8', '9'] := by decide
  have isNth := all (c.toNat - 48) (List.mem_range.2 (by omega))
  rwa [show 48 + (c.toNat - 48) = c.toNat by omega, Char.ofNat_toNat] at isNth

theorem lexeme_of_isDigit {c : Char} (digit : c.isDigit = true ∨ c = '.') (rest : List Char) :
    lexeme c rest = some (numberLexeme (c :: rest)) := by
  rcases digit with digit | rfl
  · have isOne := mem_of_isDigit digit
    simp only [List.mem_cons, List.not_mem_nil, or_false] at isOne
    rcases isOne with rfl | rfl | rfl | rfl | rfl | rfl | rfl | rfl | rfl | rfl <;> rfl
  · rfl

theorem writes_number {number : List Char} (decimal : IsDecimal number) :
    Writes number [.number (String.ofList number) false] := by
  rcases decimal with ⟨pointed, power, rfl, isPointed, isPower⟩
  intro rest more stops later
  have read := numberLexeme_append isPointed isPower stops
  have first : ∃ c chars, pointed = c :: chars ∧ (c.isDigit = true ∨ c = '.') := by
    rcases isPointed.first with ⟨c, chars, isFirst, digit⟩ | ⟨c, chars, isFirst, -⟩
    · exact ⟨c, chars, isFirst, .inl digit⟩
    · exact ⟨'.', c :: chars, isFirst, .inr rfl⟩
  rcases first with ⟨c, chars, rfl, isStart⟩
  rw [List.append_assoc, List.cons_append] at *
  exact Scans.token_cons ((lexeme_of_isDigit isStart _).trans (congrArg some read))
    (by simp; omega) later

end Numbers

/-- Lists of tokens with commas between them. -/
def commaTokens : List (List Token) → List Token
  | [] => []
  | [tokens] => tokens
  | tokens :: rest => tokens ++ .symbol "," :: commaTokens rest

/-- The tokens of names with dots between them. -/
def pathTokens : List String → List Token
  | [] => []
  | [name] => [.word name]
  | name :: rest => .word name :: .symbol "." :: pathTokens rest

namespace Writes

variable {first second : List Char} {firstTokens secondTokens : List Token}

theorem nil : Writes [] [] := fun _ _ _ later => later

theorem scans (writes : Writes first firstTokens) : Scans first firstTokens := by
  have alone := writes [] [] stops_nil .nil
  rwa [List.append_nil, List.append_nil] at alone

theorem word {name : List Char} (plain : isPlainWord name = true) :
    Writes name [.word (String.ofList name)] :=
  fun _ _ stops later => scans_word plain stops.endsWord later

theorem infixSymbol {op : String} (isOp : op ∈ infixSymbols) : Writes op.toList [.symbol op] := by
  intro rest more stops later
  rcases lexeme_infixSymbol isOp stops with ⟨c, chars, isText, first⟩
  rw [isText, List.cons_append]
  exact Scans.token_cons first (by simp) later

theorem string (text : List Char) :
    Writes ('\'' :: (quoteDoubled text ++ ['\''])) [.string (String.ofList text)] := by
  intro rest more stops later
  have closes : rest.head? ≠ some '\'' := by
    intro isQuote
    rcases stops _ isQuote with h | h | h <;> cases h
  have read := quotedBody_quoteDoubled text closes
  have first : lexeme '\'' (quoteDoubled text ++ '\'' :: rest) =
      some (some (.string (String.ofList text)), rest) := by
    have isString : lexeme '\'' (quoteDoubled text ++ '\'' :: rest) =
        literalLexeme .string (quotedBody '\'' 0 (quoteDoubled text ++ '\'' :: rest)) := rfl
    rw [isString, read]
    rfl
  rw [List.cons_append, List.append_assoc, List.singleton_append]
  exact Scans.token_cons first (by simp; omega) later

theorem spaced (writesFirst : Writes first firstTokens) (writesSecond : Writes second secondTokens) :
    Writes (first ++ ' ' :: second) (firstTokens ++ secondTokens) := by
  intro rest more stops later
  rw [List.append_assoc, List.append_assoc, List.cons_append]
  exact writesFirst _ _ (stops_blank _) (.blank_cons (writesSecond _ _ stops later))

theorem bracketed (writes : Writes first firstTokens) :
    Writes ('(' :: (first ++ [')'])) (.symbol "(" :: (firstTokens ++ [.symbol ")"])) := by
  intro rest more stops later
  have closed : Scans (')' :: rest) (.symbol ")" :: more) := Scans.token_cons rfl (by simp) later
  have inside := writes _ _ (stops_close rest) closed
  have opened : Scans ('(' :: (first ++ ')' :: rest))
      (.symbol "(" :: (firstTokens ++ .symbol ")" :: more)) :=
    Scans.token_cons rfl (by simp) inside
  simpa using opened

theorem call {name : List Char} (plain : isPlainWord name = true)
    (writes : Writes first firstTokens) :
    Writes (name ++ '(' :: (first ++ [')']))
      (.word (String.ofList name) :: .symbol "(" :: (firstTokens ++ [.symbol ")"])) := by
  intro rest more stops later
  have ends : EndsWord ('(' :: (first ++ [')']) ++ rest) := by simp [EndsWord]
  rw [List.append_assoc]
  exact scans_word plain ends (writes.bracketed _ _ stops later)

theorem commas {α : Type} (items : List α) (text : α → List Char) (tokens : α → List Token)
    (writes : ∀ item ∈ items, Writes (text item) (tokens item)) :
    Writes ([',', ' '].intercalate (items.map text)) (commaTokens (items.map tokens)) := by
  induction items with
  | nil => exact nil
  | cons item items ih =>
    rcases List.forall_mem_cons.1 writes with ⟨here, later⟩
    cases items with
    | nil => simpa [commaTokens] using here
    | cons next items =>
      intro rest more stops scansRest
      have behind := ih later rest more stops scansRest
      have comma : Scans (',' :: ' ' :: ([',', ' '].intercalate ((next :: items).map text) ++ rest))
          (.symbol "," :: (commaTokens ((next :: items).map tokens) ++ more)) :=
        Scans.token_cons rfl (by simp) (.blank_cons behind)
      have whole := here _ _ (stops_comma _) comma
      simpa [commaTokens, List.intercalate_cons_cons] using whole

theorem path (names : List String) (plain : ∀ name ∈ names, isPlainWord name.toList = true) :
    Writes (['.'].intercalate (names.map String.toList)) (pathTokens names) := by
  induction names with
  | nil => exact nil
  | cons name names ih =>
    rcases List.forall_mem_cons.1 plain with ⟨here, later⟩
    cases names with
    | nil => simpa [pathTokens] using word here
    | cons next names =>
      intro rest more stops scansRest
      have behind := ih later rest more stops scansRest
      have noDigit : ∀ c, (['.'].intercalate ((next :: names).map String.toList) ++ rest).head? =
          some c → c.isDigit = false := by
        have plainNext := later next List.mem_cons_self
        rcases isNext : next.toList with _ | ⟨c, chars⟩
        · rw [isNext] at plainNext
          cases plainNext
        · rw [isNext] at plainNext
          cases names <;> simp [isNext, List.intercalate_cons_cons,
            (startsName_of_plain plainNext).noDigit]
      have dot : Scans ('.' :: (['.'].intercalate ((next :: names).map String.toList) ++ rest))
          (.symbol "." :: (pathTokens (next :: names) ++ more)) :=
        Scans.token_cons (congrArg some (numberLexeme_dot noDigit)) (by simp) behind
      have whole := scans_word here (by simp [EndsWord]) dot
      simpa [pathTokens, List.intercalate_cons_cons] using whole

end Writes

end SearchSql.Sql
