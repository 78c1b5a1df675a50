/-!
# Cutting text at a separator

A text with n separators has n + 1 parts, some of which may be empty.
-/

namespace SearchSql.Text

def splitChars (separator : Char) : List Char → List (List Char)
  | [] => [[]]
  | c :: rest =>
    if c = separator then [] :: splitChars separator rest
    else
      match splitChars separator rest with
      | [] => [[c]]
      | part :: parts => (c :: part) :: parts

def split (separator : Char) (text : String) : List String :=
  (splitChars separator text.toList).map String.ofList

theorem splitChars_ne_nil (separator : Char) (text : List Char) :
    splitChars separator text ≠ [] := by
  cases text with
  | nil => simp [splitChars]
  | cons c rest =>
    rw [splitChars]
    split
    · simp
    · split <;> simp

/-- Putting the separator back between the parts gives the text. -/
theorem intercalate_splitChars (separator : Char) (text : List Char) :
    [separator].intercalate (splitChars separator text) = text := by
  induction text with
  | nil => rfl
  | cons c rest ih =>
    rw [splitChars]
    rcases parts : splitChars separator rest with _ | ⟨part, more⟩
    · exact absurd parts (splitChars_ne_nil separator rest)
    · rw [parts] at ih
      split
      next same =>
        subst same
        simp only [List.intercalate, List.intersperse] at ih ⊢
        simpa using ih
      · rw [← ih]
        cases more <;> simp [List.intercalate]

theorem not_mem_of_mem_splitChars {separator : Char} {text part : List Char}
    (isPart : part ∈ splitChars separator text) : separator ∉ part := by
  induction text generalizing part with
  | nil => simp_all [splitChars]
  | cons c rest ih =>
    rw [splitChars] at isPart
    split at isPart
    · rcases List.mem_cons.1 isPart with rfl | later
      · exact List.not_mem_nil
      · exact ih later
    next differs =>
      split at isPart
      next noParts => exact absurd noParts (splitChars_ne_nil separator rest)
      next first more isSplit =>
        rw [isSplit] at ih
        rcases List.mem_cons.1 isPart with rfl | later
        · exact List.not_mem_cons_of_ne_of_not_mem (Ne.symm differs) (ih List.mem_cons_self)
        · exact ih (List.mem_cons_of_mem _ later)

theorem splitChars_of_not_mem {separator : Char} {text : List Char} (absent : separator ∉ text) :
    splitChars separator text = [text] := by
  induction text with
  | nil => rfl
  | cons c rest ih =>
    rw [List.mem_cons, not_or] at absent
    rw [splitChars, if_neg (Ne.symm absent.1), ih absent.2]

theorem split_ne_nil (path : String) : split '.' path ≠ [] := by
  simpa [split] using splitChars_ne_nil '.' path.toList

theorem intercalate_split (path : String) : ".".intercalate (split '.' path) = path := by
  rw [← String.toList_inj, String.toList_intercalate, split, List.map_map]
  simpa using intercalate_splitChars '.' path.toList

end SearchSql.Text
