import SearchSql.Proofs.Query.Pieces

/-!
# Reading the pieces of a predicate

`Piece.readRow` reads a row of pieces from the front of a text. It goes word by word, where a word
ends at a blank, a bracket or a comma that is not in quotes, and it needs no more than one word to
know what comes next. So a row can be read back from its text, whatever is written behind it, and
two rows with the same text are the same.

This asks for names that cannot be taken for something else: a field is not called like a keyword, a
number begins like one, and the quotes in the name of a function are closed.
-/

namespace SearchSql

/-- The characters that end a word. -/
def endsWord (c : Char) : Bool := c == ' ' || c == '(' || c == ')' || c == ','

/-- The quotes that names are written in. -/
def isNameQuote (c : Char) : Bool := c == '\'' || c == '"' || c == '\x60'

/-- Splits a text where its first word ends. A word does not end inside quotes. -/
def splitWord : (quote : Option Char) → List Char → List Char × List Char
  | _, [] => ([], [])
  | none, c :: text =>
    if endsWord c then ([], c :: text)
    else
      let split := splitWord (if isNameQuote c then some c else none) text
      (c :: split.1, split.2)
  | some quote, c :: text =>
    let split := splitWord (if c = quote then none else some quote) text
    (c :: split.1, split.2)

/-- Whether a text is a word, with its quotes closed. -/
def isWord : (quote : Option Char) → List Char → Bool
  | quote, [] => quote.isNone
  | none, c :: text => !endsWord c && isWord (if isNameQuote c then some c else none) text
  | some quote, c :: text => isWord (if c = quote then none else some quote) text

/-- What may stand behind an operand: nothing, or a character that ends a word and opens nothing. -/
def EndsOperand (text : List Char) : Prop :=
  text.head? = none ∨ text.head? = some ' ' ∨ text.head? = some ')' ∨ text.head? = some ','

theorem splitWord_append {quote : Option Char} {word rest : List Char}
    (isWhole : isWord quote word = true) (ends : ∀ c, rest.head? = some c → endsWord c = true) :
    splitWord quote (word ++ rest) = (word, rest) := by
  induction word generalizing quote with
  | nil =>
    cases quote with
    | some quote => cases isWhole
    | none =>
      cases rest with
      | nil => rfl
      | cons c rest => simp [splitWord, ends c rfl]
  | cons c word ih =>
    cases quote with
    | none =>
      simp only [isWord, Bool.and_eq_true, Bool.not_eq_true'] at isWhole
      simp [splitWord, isWhole.1, ih isWhole.2]
    | some quote =>
      simp only [isWord] at isWhole
      simp [splitWord, ih isWhole]

/-- A text without quotes that no character ends early. -/
def isPlain (text : List Char) : Bool :=
  !text.isEmpty && text.all fun c => !endsWord c && !isNameQuote c

theorem isWord_of_isPlain {text : List Char} (plain : isPlain text = true) :
    isWord none text = true := by
  simp only [isPlain, Bool.and_eq_true, Bool.not_eq_true'] at plain
  replace plain := plain.2
  induction text with
  | nil => rfl
  | cons c text ih =>
    simp only [List.all_cons, Bool.and_eq_true, Bool.not_eq_true'] at plain
    simp [isWord, plain.1.1, plain.1.2, ih plain.2]

theorem word_of_isPlain {text : List Char} (plain : isPlain text = true) :
    isWord none text = true ∧ text ≠ [] ∧ text.head? ≠ some '\'' := by
  refine ⟨isWord_of_isPlain plain, ?_, ?_⟩
  · rintro rfl
    cases plain
  · intro isHead
    cases text with
    | nil => cases isHead
    | cons c text =>
      rw [List.head?_cons, Option.some.injEq] at isHead
      simp [isPlain, isHead, isNameQuote] at plain

def beginsNumber (text : List Char) : Bool := text.head?.any fun c => c.isDigit || c == '.'

/-- Words that the text of a predicate has a use of its own for, where an operand may stand. -/
def operandKeywords : List String := ["NOT", "NULL", "true", "false"]

/-- Words that the text of a predicate has a use of its own for, where an operator may stand. -/
def operatorKeywords : List String := ["AND", "OR", "IS", "IN", "NOT"]

def isFieldPath (path : String) : Bool :=
  isPlain path.toList && !beginsNumber path.toList && !operandKeywords.contains path

def isNumeral (text : String) : Bool := isPlain text.toList && beginsNumber text.toList

def isOperatorName (op : String) : Bool := isPlain op.toList && !operatorKeywords.contains op

/-- The name of a function as it is written, with its quotes. It does not begin like a string. -/
def isFunctionName (name : String) : Bool :=
  !name.toList.isEmpty && isWord none name.toList && name.toList.head? != some '\''

namespace Piece

/-- The piece that a word is for which no bracket follows. -/
def ofWord (word : List Char) : Piece :=
  if word = "NULL".toList then .null
  else if word = "true".toList then .bool true
  else if word = "false".toList then .bool false
  else if beginsNumber word then .number (String.ofList word)
  else .field (String.ofList word)

/-- Reads a string up to the quote that closes it. -/
def readString : List Char → List Char × List Char
  | [] => ([], [])
  | [c] => if c = '\'' then ([], []) else ([c], [])
  | c :: d :: text =>
    if c = '\'' then
      if d = '\'' then
        let read := readString text
        (c :: read.1, read.2)
      else ([], d :: text)
    else
      let read := readString (d :: text)
      (c :: read.1, read.2)

/-- Puts a piece in front of a row that was read. -/
def before (piece : Piece) (read : List Piece × List Char) : List Piece × List Char :=
  (piece :: read.1, read.2)

mutual

/-- Reads a row from its beginning or from behind an operator. -/
def readRow : Nat → List Char → Option (List Piece × List Char)
  | 0, _ => none
  | fuel + 1, text =>
    if text.head? = some '(' then
      (readRow fuel text.tail).bind fun left =>
        if left.2.head? = some ')' then
          (readTests fuel left.2.tail).map (before (.group left.1))
        else
          let word := splitWord none left.2.tail
          (readRow fuel word.2.tail).bind fun right =>
            (readTests fuel right.2.tail).map
              (before (.conditional (String.ofList word.1) left.1 right.1))
    else if text.head? = some '\'' then
      let value := readString text.tail
      (readTests fuel value.2).map (before (.string (String.ofList value.1)))
    else
      let word := splitWord none text
      if word.2.head? = some '(' then
        (readList fuel word.2.tail).bind fun arguments =>
          (readTests fuel arguments.2).map (before (.call (String.ofList word.1) arguments.1))
      else if word.1 = "NOT".toList then (readRow fuel word.2.tail).map (before .negation)
      else (readTests fuel word.2).map (before (ofWord word.1))

/-- Reads the rest of a row from behind an operand. -/
def readTests : Nat → List Char → Option (List Piece × List Char)
  | 0, _ => none
  | fuel + 1, text =>
    if text.head? = some ' ' then
      let word := splitWord none text.tail
      if word.1 = "AND".toList ∨ word.1 = "OR".toList then some ([], text)
      else if word.1 = "IS".toList then
        let next := splitWord none word.2.tail
        if next.1 = "NOT".toList then (readTests fuel (next.2.drop 5)).map (before (.nullTest true))
        else (readTests fuel next.2).map (before (.nullTest false))
      else if word.1 = "IN".toList then
        (readList fuel (word.2.drop 2)).bind fun items =>
          (readTests fuel items.2).map (before (.membership items.1 false))
      else if word.1 = "NOT".toList then
        (readList fuel (word.2.drop 5)).bind fun items =>
          (readTests fuel items.2).map (before (.membership items.1 true))
      else (readRow fuel word.2.tail).map (before (.infixed (String.ofList word.1)))
    else some ([], text)

/-- Reads rows and the bracket behind them. -/
def readList : Nat → List Char → Option (List (List Piece) × List Char)
  | 0, _ => none
  | fuel + 1, text =>
    if text.head? = some ')' then some ([], text.tail)
    else
      (readRow fuel text).bind fun row =>
        (readTail fuel row.2).map fun rest => (row.1 :: rest.1, rest.2)

/-- Reads the rows behind a first one, and the bracket behind them. -/
def readTail : Nat → List Char → Option (List (List Piece) × List Char)
  | 0, _ => none
  | fuel + 1, text =>
    if text.head? = some ',' then
      (readRow fuel (text.drop 2)).bind fun row =>
        (readTail fuel row.2).map fun rest => (row.1 :: rest.1, rest.2)
    else some ([], text.tail)

end

/-- The pieces that are a word by themselves. -/
inductive IsSimple : Piece → Prop
  | field {path : String} (isPath : isFieldPath path = true) : IsSimple (.field path)
  | number {text : String} (isNumber : isNumeral text = true) : IsSimple (.number text)
  | bool (value : Bool) : IsSimple (.bool value)
  | null : IsSimple .null

mutual

/-- A row that begins with an operand. -/
inductive IsRow : List Piece → Prop
  | negation {rest : List Piece} (operand : IsRow rest) : IsRow (.negation :: rest)
  | simple {piece : Piece} {rest : List Piece} (isSimple : piece.IsSimple) (tests : IsTests rest) :
      IsRow (piece :: rest)
  | string {text : String} {rest : List Piece} (tests : IsTests rest) : IsRow (.string text :: rest)
  | call {name : String} {arguments : List (List Piece)} {rest : List Piece}
      (isName : isFunctionName name = true) (each : ∀ argument ∈ arguments, IsRow argument)
      (tests : IsTests rest) : IsRow (.call name arguments :: rest)
  | group {inner rest : List Piece} (inside : IsRow inner) (tests : IsTests rest) :
      IsRow (.group inner :: rest)
  | conditional {op : String} {left right rest : List Piece} (joins : op = "AND" ∨ op = "OR")
      (first : IsRow left) (second : IsRow right) (tests : IsTests rest) :
      IsRow (.conditional op left right :: rest)

/-- What stands behind an operand in a row: tests, perhaps an operator with a further operand. -/
inductive IsTests : List Piece → Prop
  | nil : IsTests []
  | nullTest {negated : Bool} {rest : List Piece} (tests : IsTests rest) :
      IsTests (.nullTest negated :: rest)
  | membership {items : List (List Piece)} {negated : Bool} {rest : List Piece}
      (each : ∀ item ∈ items, IsRow item) (tests : IsTests rest) :
      IsTests (.membership items negated :: rest)
  | infixed {op : String} {rest : List Piece} (isOperator : isOperatorName op = true)
      (operand : IsRow rest) : IsTests (.infixed op :: rest)

end

/-- What may stand behind a whole row. -/
inductive Stops : List Char → Prop
  | done : Stops []
  | bracket (rest : List Char) : Stops (')' :: rest)
  | comma (rest : List Char) : Stops (',' :: rest)
  | join {op : String} (joins : op = "AND" ∨ op = "OR") (rest : List Char) :
      Stops (' ' :: (op.toList ++ ' ' :: rest))

theorem endsOperand_of_stops {rest : List Char} (stops : Stops rest) : EndsOperand rest := by
  cases stops with
  | done => exact Or.inl rfl
  | bracket => exact Or.inr (Or.inr (Or.inl rfl))
  | comma => exact Or.inr (Or.inr (Or.inr rfl))
  | join => exact Or.inr (Or.inl rfl)

theorem endsOperand_of_tests {row : List Piece} {rest : List Char} (tests : IsTests row)
    (stops : Stops rest) : EndsOperand (rowChars row ++ rest) := by
  cases tests with
  | nil => exact endsOperand_of_stops stops
  | nullTest | membership | infixed =>
    right
    left
    simp [rowChars, chars]

theorem endsWord_of_endsOperand {text : List Char} (ends : EndsOperand text) (c : Char)
    (isHead : text.head? = some c) : endsWord c = true := by
  rcases ends with none | blank | bracket | comma
  · rw [isHead] at none
    cases none
  · rw [isHead, Option.some.injEq] at blank
    rw [blank]
    rfl
  · rw [isHead, Option.some.injEq] at bracket
    rw [bracket]
    rfl
  · rw [isHead, Option.some.injEq] at comma
    rw [comma]
    rfl

theorem head?_ne_of_endsOperand {text : List Char} (ends : EndsOperand text) :
    text.head? ≠ some '(' ∧ text.head? ≠ some '\'' := by
  rcases ends with isHead | isHead | isHead | isHead <;> rw [isHead] <;> decide

theorem readString_append (value : List Char) {rest : List Char} (ends : rest.head? ≠ some '\'') :
    readString (quoteDoubled value ++ '\'' :: rest) = (value, rest) := by
  induction value with
  | nil =>
    cases rest with
    | nil => rfl
    | cons c rest =>
      have differs : c ≠ '\'' := by simpa using ends
      simp [quoteDoubled, readString, differs]
  | cons c value ih =>
    by_cases isQuote : c = '\''
    · simp [quoteDoubled, readString, isQuote, ih]
    · -- the character behind is the first of the rest, whatever that is
      have behind : ∃ d text, quoteDoubled value ++ '\'' :: rest = d :: text := by
        cases quoteDoubled value <;> simp
      rcases behind with ⟨d, text, isRest⟩
      rw [isRest] at ih
      simp [quoteDoubled, isQuote, isRest, readString, ih]

theorem readRow_word {fuel : Nat} {word text : List Char} (isWhole : isWord none word = true)
    (nonempty : word ≠ []) (noString : word.head? ≠ some '\'')
    (ends : ∀ c, text.head? = some c → endsWord c = true) :
    readRow (fuel + 1) (word ++ text) =
      if text.head? = some '(' then
        (readList fuel text.tail).bind fun arguments =>
          (readTests fuel arguments.2).map (before (.call (String.ofList word) arguments.1))
      else if word = "NOT".toList then (readRow fuel text.tail).map (before .negation)
      else (readTests fuel text).map (before (ofWord word)) := by
  cases word with
  | nil => exact absurd rfl nonempty
  | cons c word =>
    have noBracket : c ≠ '(' := by
      rintro rfl
      simp [isWord, endsWord] at isWhole
    have noQuote : c ≠ '\'' := by simpa using noString
    rw [readRow, splitWord_append isWhole ends]
    simp [noBracket, noQuote]

theorem readTests_word {fuel : Nat} {word text : List Char} (isWhole : isWord none word = true)
    (ends : ∀ c, text.head? = some c → endsWord c = true) :
    readTests (fuel + 1) (' ' :: word ++ text) =
      if word = "AND".toList ∨ word = "OR".toList then some ([], ' ' :: word ++ text)
      else if word = "IS".toList then
        if (splitWord none text.tail).1 = "NOT".toList then
          (readTests fuel ((splitWord none text.tail).2.drop 5)).map (before (.nullTest true))
        else (readTests fuel (splitWord none text.tail).2).map (before (.nullTest false))
      else if word = "IN".toList then
        (readList fuel (text.drop 2)).bind fun items =>
          (readTests fuel items.2).map (before (.membership items.1 false))
      else if word = "NOT".toList then
        (readList fuel (text.drop 5)).bind fun items =>
          (readTests fuel items.2).map (before (.membership items.1 true))
      else (readRow fuel text.tail).map (before (.infixed (String.ofList word))) := by
  have split := splitWord_append isWhole ends
  rw [readTests]
  simp only [List.cons_append, List.head?_cons, if_true, List.tail_cons, split]

theorem readTests_of_stops {fuel : Nat} {rest : List Char} (stops : Stops rest) :
    readTests (fuel + 1) rest = some ([], rest) := by
  cases stops with
  | done | bracket | comma => rfl
  | @join op joins rest =>
    have isWhole : isWord none op.toList = true := by
      rcases joins with rfl | rfl <;> decide
    have ends : ∀ c, (' ' :: rest).head? = some c → endsWord c = true := by simp [endsWord]
    rw [← String.toList_inj, ← String.toList_inj] at joins
    exact (readTests_word isWhole ends).trans (if_pos joins)

/-- Behind a row of a list there is a comma or the bracket that closes the list. -/
theorem stops_tail (rows : List (List Piece)) {rest : List Char} :
    Stops (tailChars rows ++ ')' :: rest) := by
  cases rows with
  | nil => exact .bracket rest
  | cons row rows =>
    rw [tailChars, List.cons_append, List.cons_append]
    exact .comma _

/-- Simple pieces are words, and the words of different pieces differ. -/
theorem IsSimple.word {piece : Piece} (simple : piece.IsSimple) :
    isPlain piece.chars = true ∧ piece.chars ≠ "NOT".toList ∧ ofWord piece.chars = piece := by
  cases simple with
  | @field path isPath =>
    simp only [isFieldPath, operandKeywords, Bool.and_eq_true, Bool.not_eq_true',
      List.contains_eq_mem, List.mem_cons, List.not_mem_nil, or_false, decide_eq_false_iff_not,
      not_or, ← String.toList_inj] at isPath
    rcases isPath with ⟨⟨plain, noNumber⟩, notNegation, notNull, notTrue, notFalse⟩
    refine ⟨plain, notNegation, ?_⟩
    simp only [ofWord, chars, notNull, notTrue, notFalse, noNumber, if_false, Bool.false_eq_true,
      String.ofList_toList]
  | @number text isNumber =>
    simp only [isNumeral, Bool.and_eq_true] at isNumber
    have noNumber : ∀ keyword ∈ operandKeywords, beginsNumber keyword.toList = false := by decide
    have differs : ∀ keyword ∈ operandKeywords, text.toList ≠ keyword.toList := by
      intro keyword member same
      rw [same, noNumber keyword member] at isNumber
      cases isNumber.2
    refine ⟨isNumber.1, differs "NOT" (by decide), ?_⟩
    simp only [ofWord, chars, differs "NULL" (by decide), differs "true" (by decide),
      differs "false" (by decide), isNumber.2, if_false, if_true, String.ofList_toList]
  | bool value => cases value <;> exact ⟨by decide, by decide, rfl⟩
  | null => exact ⟨by decide, by decide, rfl⟩

theorem head?_ne_of_isWord {word text : List Char} (isWhole : isWord none word = true)
    (nonempty : word ≠ []) : (word ++ text).head? ≠ some ')' := by
  cases word with
  | nil => exact absurd rfl nonempty
  | cons c word =>
    intro isHead
    rw [List.cons_append, List.head?_cons, Option.some.injEq] at isHead
    simp [isWord, isHead, endsWord] at isWhole

/-- A row does not begin like the end of a list. -/
theorem head?_ne_of_row {row : List Piece} {rest : List Char} (isRow : IsRow row) :
    (rowChars row ++ rest).head? ≠ some ')' := by
  cases isRow with
  | negation | string | group | conditional => simp [rowChars, chars]
  | simple isSimple =>
    rcases word_of_isPlain isSimple.word.1 with ⟨isWhole, nonempty, _⟩
    rw [rowChars, List.append_assoc]
    exact head?_ne_of_isWord isWhole nonempty
  | call isName =>
    simp only [isFunctionName, Bool.and_eq_true, Bool.not_eq_true', List.isEmpty_eq_false_iff]
      at isName
    rw [rowChars, chars, List.append_assoc, List.append_assoc, List.append_assoc]
    exact head?_ne_of_isWord isName.1.2 isName.1.1

/-- The reader inverts the text, as far as a number of steps goes. -/
structure Inverts (fuel : Nat) : Prop where
  row {row : List Piece} {rest : List Char} (isRow : IsRow row) (stops : Stops rest)
    (enough : (rowChars row).length < fuel) : readRow fuel (rowChars row ++ rest) = some (row, rest)
  tests {row : List Piece} {rest : List Char} (isTests : IsTests row) (stops : Stops rest)
    (enough : (rowChars row).length < fuel) :
    readTests fuel (rowChars row ++ rest) = some (row, rest)
  list {rows : List (List Piece)} {rest : List Char} (each : ∀ row ∈ rows, IsRow row)
    (enough : (listChars rows).length + 1 < fuel) :
    readList fuel (listChars rows ++ ')' :: rest) = some (rows, rest)
  tail {rows : List (List Piece)} {rest : List Char} (each : ∀ row ∈ rows, IsRow row)
    (enough : (tailChars rows).length < fuel) :
    readTail fuel (tailChars rows ++ ')' :: rest) = some (rows, rest)

namespace Inverts

variable {fuel : Nat} {row tail : List Piece} {rest : List Char} {rows : List (List Piece)}

theorem row_negation (inverts : Inverts fuel) (operand : IsRow tail)
    (stops : Stops rest) (enough : (rowChars (.negation :: tail)).length < fuel + 1) :
    readRow (fuel + 1) (rowChars (.negation :: tail) ++ rest) = some (.negation :: tail, rest) := by
  have shape : rowChars (.negation :: tail) ++ rest =
      "NOT".toList ++ ' ' :: (rowChars tail ++ rest) := by
    simp [rowChars, chars]
  have within : (rowChars tail).length < fuel := by
    simp [rowChars, chars] at enough
    omega
  rw [shape, readRow_word (by decide) (by decide) (by decide) (by simp [endsWord])]
  simp [inverts.row operand stops within, before]

theorem row_simple (inverts : Inverts fuel) {piece : Piece} (isSimple : piece.IsSimple)
    (tests : IsTests tail) (stops : Stops rest)
    (enough : (rowChars (piece :: tail)).length < fuel + 1) :
    readRow (fuel + 1) (rowChars (piece :: tail) ++ rest) = some (piece :: tail, rest) := by
  rcases isSimple.word with ⟨plain, notNegation, isPiece⟩
  rcases word_of_isPlain plain with ⟨isWhole, nonempty, noString⟩
  have ends := endsOperand_of_tests tests stops
  have within : (rowChars tail).length < fuel := by
    have positive := List.length_pos_iff.mpr nonempty
    rw [rowChars, List.length_append] at enough
    omega
  rw [rowChars, List.append_assoc,
    readRow_word isWhole nonempty noString (endsWord_of_endsOperand ends),
    if_neg (head?_ne_of_endsOperand ends).1, if_neg notNegation, inverts.tests tests stops within,
    isPiece]
  rfl

theorem row_string (inverts : Inverts fuel) {text : String} (tests : IsTests tail)
    (stops : Stops rest) (enough : (rowChars (.string text :: tail)).length < fuel + 1) :
    readRow (fuel + 1) (rowChars (.string text :: tail) ++ rest) =
      some (.string text :: tail, rest) := by
  have ends := endsOperand_of_tests tests stops
  have within : (rowChars tail).length < fuel := by
    simp [rowChars, chars] at enough
    omega
  have shape : rowChars (.string text :: tail) ++ rest =
      '\'' :: (quoteDoubled text.toList ++ '\'' :: (rowChars tail ++ rest)) := by
    simp [rowChars, chars]
  rw [shape, readRow]
  simp [readString_append _ (head?_ne_of_endsOperand ends).2, inverts.tests tests stops within,
    before]

theorem row_call (inverts : Inverts fuel) {name : String} {arguments : List (List Piece)}
    (isName : isFunctionName name = true) (each : ∀ argument ∈ arguments, IsRow argument)
    (tests : IsTests tail) (stops : Stops rest)
    (enough : (rowChars (.call name arguments :: tail)).length < fuel + 1) :
    readRow (fuel + 1) (rowChars (.call name arguments :: tail) ++ rest) =
      some (.call name arguments :: tail, rest) := by
  simp only [isFunctionName, Bool.and_eq_true, Bool.not_eq_true', List.isEmpty_eq_false_iff,
    bne_iff_ne] at isName
  rcases isName with ⟨⟨nonempty, isWhole⟩, noString⟩
  have shape : rowChars (.call name arguments :: tail) ++ rest =
      name.toList ++ '(' :: (listChars arguments ++ ')' :: (rowChars tail ++ rest)) := by
    simp [rowChars, chars]
  have positive := List.length_pos_iff.mpr nonempty
  have within : (listChars arguments).length + 1 < fuel ∧ (rowChars tail).length < fuel := by
    simp [rowChars, chars] at enough
    omega
  rw [shape, readRow_word isWhole nonempty noString (by simp [endsWord])]
  simp [inverts.list each within.1, inverts.tests tests stops within.2, before]

theorem row_group (inverts : Inverts fuel) {inner : List Piece} (inside : IsRow inner)
    (tests : IsTests tail) (stops : Stops rest)
    (enough : (rowChars (.group inner :: tail)).length < fuel + 1) :
    readRow (fuel + 1) (rowChars (.group inner :: tail) ++ rest) =
      some (.group inner :: tail, rest) := by
  have shape : rowChars (.group inner :: tail) ++ rest =
      '(' :: (rowChars inner ++ ')' :: (rowChars tail ++ rest)) := by
    simp [rowChars, chars]
  have within : (rowChars inner).length < fuel ∧ (rowChars tail).length < fuel := by
    simp [rowChars, chars] at enough
    omega
  rw [shape, readRow]
  simp [inverts.row inside (.bracket _) within.1, inverts.tests tests stops within.2, before]

theorem row_conditional (inverts : Inverts fuel) {op : String} {left right : List Piece}
    (joins : op = "AND" ∨ op = "OR") (first : IsRow left) (second : IsRow right)
    (tests : IsTests tail) (stops : Stops rest)
    (enough : (rowChars (.conditional op left right :: tail)).length < fuel + 1) :
    readRow (fuel + 1) (rowChars (.conditional op left right :: tail) ++ rest) =
      some (.conditional op left right :: tail, rest) := by
  have upper : op.map Char.toUpper = op := by
    rw [← String.toList_inj, String.toList_map]
    rcases joins with rfl | rfl <;> decide
  have isWhole : isWord none op.toList = true := by
    rcases joins with rfl | rfl <;> decide
  have shape : rowChars (.conditional op left right :: tail) ++ rest =
      '(' :: (rowChars left ++ ' ' :: (op.toList ++ ' ' ::
        (rowChars right ++ ')' :: (rowChars tail ++ rest)))) := by
    simp [rowChars, chars, upper]
  have within : (rowChars left).length < fuel ∧ (rowChars right).length < fuel ∧
      (rowChars tail).length < fuel := by
    simp [rowChars, chars] at enough
    omega
  have split : splitWord none (op.toList ++ ' ' :: (rowChars right ++ ')' ::
      (rowChars tail ++ rest))) = (op.toList, _) := splitWord_append isWhole (by simp [endsWord])
  rw [shape, readRow]
  simp [inverts.row first (.join joins _) within.1, split,
    inverts.row second (.bracket _) within.2.1, inverts.tests tests stops within.2.2, before]

theorem row_succ (inverts : Inverts fuel) (isRow : IsRow row) (stops : Stops rest)
    (enough : (rowChars row).length < fuel + 1) :
    readRow (fuel + 1) (rowChars row ++ rest) = some (row, rest) := by
  cases isRow with
  | negation operand => exact inverts.row_negation operand stops enough
  | simple isSimple tests => exact inverts.row_simple isSimple tests stops enough
  | string tests => exact inverts.row_string tests stops enough
  | call isName each tests => exact inverts.row_call isName each tests stops enough
  | group inside tests => exact inverts.row_group inside tests stops enough
  | conditional joins first second tests =>
    exact inverts.row_conditional joins first second tests stops enough

theorem tests_nullTest (inverts : Inverts fuel) {negated : Bool} (tests : IsTests tail)
    (stops : Stops rest)
    (enough : (rowChars (.nullTest negated :: tail)).length < fuel + 1) :
    readTests (fuel + 1) (rowChars (.nullTest negated :: tail) ++ rest) =
      some (.nullTest negated :: tail, rest) := by
  have ends := endsWord_of_endsOperand (endsOperand_of_tests tests stops)
  have within : (rowChars tail).length < fuel := by
    simp [rowChars, chars] at enough
    omega
  cases negated with
  | false =>
    have shape : rowChars (.nullTest false :: tail) ++ rest =
        ' ' :: "IS".toList ++ ' ' :: ("NULL".toList ++ (rowChars tail ++ rest)) := by
      simp [rowChars, chars, negationWord]
    have split : splitWord none ("NULL".toList ++ (rowChars tail ++ rest)) = ("NULL".toList, _) :=
      splitWord_append (by decide) ends
    rw [shape, readTests_word (by decide) (by simp [endsWord]), List.tail_cons, split]
    simp [inverts.tests tests stops within, before]
  | true =>
    have shape : rowChars (.nullTest true :: tail) ++ rest =
        ' ' :: "IS".toList ++
          ' ' :: ("NOT".toList ++ (" NULL".toList ++ (rowChars tail ++ rest))) := by
      simp [rowChars, chars, negationWord]
    have split : splitWord none ("NOT".toList ++ (" NULL".toList ++ (rowChars tail ++ rest))) =
        ("NOT".toList, _) := splitWord_append (by decide) (by simp [endsWord])
    rw [shape, readTests_word (by decide) (by simp [endsWord]), List.tail_cons, split]
    simp [inverts.tests tests stops within, before]

theorem tests_membership (inverts : Inverts fuel) {items : List (List Piece)} {negated : Bool}
    (each : ∀ item ∈ items, IsRow item) (tests : IsTests tail) (stops : Stops rest)
    (enough : (rowChars (.membership items negated :: tail)).length < fuel + 1) :
    readTests (fuel + 1) (rowChars (.membership items negated :: tail) ++ rest) =
      some (.membership items negated :: tail, rest) := by
  have within : (listChars items).length + 1 < fuel ∧ (rowChars tail).length < fuel := by
    simp [rowChars, chars] at enough
    omega
  cases negated with
  | false =>
    have shape : rowChars (.membership items false :: tail) ++ rest =
        ' ' :: "IN".toList ++
          ' ' :: '(' :: (listChars items ++ ')' :: (rowChars tail ++ rest)) := by
      simp [rowChars, chars, negationWord]
    rw [shape, readTests_word (by decide) (by simp [endsWord])]
    simp [inverts.list each within.1, inverts.tests tests stops within.2, before]
  | true =>
    have shape : rowChars (.membership items true :: tail) ++ rest =
        ' ' :: "NOT".toList ++ (" IN (".toList ++
          (listChars items ++ ')' :: (rowChars tail ++ rest))) := by
      simp [rowChars, chars, negationWord]
    rw [shape, readTests_word (by decide) (by simp [endsWord])]
    simp [inverts.list each within.1, inverts.tests tests stops within.2, before]

theorem tests_infixed (inverts : Inverts fuel) {op : String}
    (isOperator : isOperatorName op = true) (operand : IsRow tail) (stops : Stops rest)
    (enough : (rowChars (.infixed op :: tail)).length < fuel + 1) :
    readTests (fuel + 1) (rowChars (.infixed op :: tail) ++ rest) =
      some (.infixed op :: tail, rest) := by
  simp only [isOperatorName, operatorKeywords, Bool.and_eq_true, Bool.not_eq_true',
    List.contains_eq_mem, List.mem_cons, List.not_mem_nil, or_false, decide_eq_false_iff_not,
    not_or, ← String.toList_inj] at isOperator
  rcases isOperator with ⟨plain, notAnd, notOr, notIs, notIn, notNegation⟩
  have shape : rowChars (.infixed op :: tail) ++ rest =
      ' ' :: op.toList ++ ' ' :: (rowChars tail ++ rest) := by
    simp [rowChars, chars]
  have within : (rowChars tail).length < fuel := by
    simp [rowChars, chars] at enough
    omega
  rw [shape, readTests_word (isWord_of_isPlain plain) (by simp [endsWord])]
  simp only [notAnd, notOr, notIs, notIn, notNegation, or_self, if_false, List.tail_cons,
    inverts.row operand stops within, String.ofList_toList]
  rfl

theorem tests_succ (inverts : Inverts fuel) (isTests : IsTests row) (stops : Stops rest)
    (enough : (rowChars row).length < fuel + 1) :
    readTests (fuel + 1) (rowChars row ++ rest) = some (row, rest) := by
  cases isTests with
  | nil => exact readTests_of_stops stops
  | nullTest tests => exact inverts.tests_nullTest tests stops enough
  | membership each tests => exact inverts.tests_membership each tests stops enough
  | infixed isOperator operand => exact inverts.tests_infixed isOperator operand stops enough

theorem tail_succ (inverts : Inverts fuel) (each : ∀ row ∈ rows, IsRow row)
    (enough : (tailChars rows).length < fuel + 1) :
    readTail (fuel + 1) (tailChars rows ++ ')' :: rest) = some (rows, rest) := by
  cases rows with
  | nil => rfl
  | cons row rows =>
    have shape : tailChars (row :: rows) ++ ')' :: rest =
        ',' :: ' ' :: (rowChars row ++ (tailChars rows ++ ')' :: rest)) := by
      simp [tailChars]
    have within : (rowChars row).length < fuel ∧ (tailChars rows).length < fuel := by
      simp [tailChars] at enough
      omega
    rw [shape, readTail]
    simp [inverts.row (each row List.mem_cons_self) (stops_tail rows) within.1,
      inverts.tail (fun later member => each later (List.mem_cons_of_mem _ member)) within.2]

theorem list_succ (inverts : Inverts fuel) (each : ∀ row ∈ rows, IsRow row)
    (enough : (listChars rows).length + 1 < fuel + 1) :
    readList (fuel + 1) (listChars rows ++ ')' :: rest) = some (rows, rest) := by
  cases rows with
  | nil => rfl
  | cons row rows =>
    have isRow := each row List.mem_cons_self
    have within : (rowChars row).length < fuel ∧ (tailChars rows).length < fuel := by
      simp [listChars] at enough
      omega
    rw [listChars, List.append_assoc, readList, if_neg (head?_ne_of_row isRow)]
    simp [inverts.row isRow (stops_tail rows) within.1,
      inverts.tail (fun later member => each later (List.mem_cons_of_mem _ member)) within.2]

end Inverts

theorem inverts (fuel : Nat) : Inverts fuel := by
  induction fuel with
  | zero =>
    exact ⟨fun _ _ enough => absurd enough (Nat.not_lt_zero _),
      fun _ _ enough => absurd enough (Nat.not_lt_zero _),
      fun _ enough => absurd enough (Nat.not_lt_zero _),
      fun _ enough => absurd enough (Nat.not_lt_zero _)⟩
  | succ fuel ih => exact ⟨ih.row_succ, ih.tests_succ, ih.list_succ, ih.tail_succ⟩

/-- A row is known by its text, whatever stands behind it. -/
theorem row_eq_of_rowChars_eq {first second : List Piece} (isFirst : IsRow first)
    (isSecond : IsRow second) (same : rowChars first = rowChars second) : first = second := by
  have enough : (rowChars first).length < (rowChars first).length + 1 := Nat.lt_succ_self _
  have readFirst := (inverts _).row isFirst .done enough
  have readSecond := (inverts _).row isSecond .done (same ▸ enough)
  rw [List.append_nil] at readFirst readSecond
  rw [same, readSecond, Option.some.injEq, Prod.mk.injEq] at readFirst
  exact readFirst.1.symm

end Piece

end SearchSql
