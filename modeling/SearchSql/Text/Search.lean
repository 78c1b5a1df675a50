/-!
# Searching in text

Whether and where one text occurs in another, and the comparison of texts that holds upper and
lower case of ASCII letters for the same.
-/

namespace SearchSql.Text

def occursIn (wanted : List Char) : List Char → Bool
  | [] => wanted.isEmpty
  | c :: rest => wanted.isPrefixOf (c :: rest) || occursIn wanted rest

theorem occursIn_iff (wanted text : List Char) :
    occursIn wanted text = true ↔ ∃ before after, text = before ++ wanted ++ after := by
  induction text with
  | nil =>
    simp only [occursIn, List.isEmpty_iff]
    constructor
    · rintro rfl
      exact ⟨[], [], rfl⟩
    · rintro ⟨before, after, eq⟩
      simp at eq
      exact eq.2.1
  | cons c rest ih =>
    simp only [occursIn, Bool.or_eq_true, ih, List.isPrefixOf_iff_prefix]
    constructor
    · rintro (⟨after, eq⟩ | ⟨before, after, eq⟩)
      · exact ⟨[], after, by simpa using eq.symm⟩
      · exact ⟨c :: before, after, by simp [eq]⟩
    · rintro ⟨before, after, eq⟩
      cases before with
      | nil => exact Or.inl ⟨after, by simpa using eq.symm⟩
      | cons first before =>
        simp only [List.cons_append, List.cons.injEq] at eq
        exact Or.inr ⟨before, after, eq.2⟩

def asciiLower (text : String) : String := text.map Char.toLower

def asciiUpper (text : String) : String := text.map Char.toUpper

/-- Whether a text holds another one, ASCII letters being compared without their case. -/
def holdsAnyCase (wanted text : String) : Bool :=
  occursIn wanted.toList (text.toList.map Char.toLower)

end SearchSql.Text
