import SearchSql.Geometry.Basic

/-!
# Texts of ordinates

An ordinate is written as a numeral: digits, possibly with a point and more digits behind it and a
minus sign in front, and never an exponent. Nothing that separates or ends ordinates can therefore
stand inside one. The lemmas follow the layout of a decimal, by the place of its point.
-/

namespace SearchSql

namespace Wkt

structure IsDigits (text : List Char) : Prop where
  nonempty : text ≠ []
  digits : ∀ c ∈ text, c.isDigit = true

/-- A number without a sign. -/
inductive IsMagnitude : List Char → Prop
  | whole {digits : List Char} (areDigits : IsDigits digits) : IsMagnitude digits
  | fraction {digits places : List Char} (areDigits : IsDigits digits)
      (arePlaces : IsDigits places) : IsMagnitude (digits ++ '.' :: places)

inductive IsNumeral : List Char → Prop
  | unsigned {text : List Char} (isMagnitude : IsMagnitude text) : IsNumeral text
  | negative {text : List Char} (isMagnitude : IsMagnitude text) : IsNumeral ('-' :: text)

/-- The characters of numerals. -/
def isNumeralChar (c : Char) : Bool := c.isDigit || c == '-' || c == '.'

variable {text : List Char}

theorem IsDigits.append {more : List Char} (isDigits : IsDigits text)
    (areDigits : ∀ c ∈ more, c.isDigit = true) : IsDigits (text ++ more) where
  nonempty := List.append_ne_nil_of_left_ne_nil isDigits.nonempty more
  digits := fun c isMember => (List.mem_append.1 isMember).elim (isDigits.digits c) (areDigits c)

theorem isDigits_toDigits (number : Nat) : IsDigits (Nat.toDigits 10 number) where
  nonempty := Nat.toDigits_ne_nil
  digits := fun _ => Nat.isDigit_of_mem_toDigits (by omega) (by omega)

theorem isDigit_of_mem_zeros {count : Nat} {c : Char} (isZero : c ∈ Decimal.zeros count) :
    c.isDigit = true := by
  rw [List.eq_of_mem_replicate isZero]
  rfl

theorem isMagnitude_positional (decimal : Decimal) : IsMagnitude decimal.positional := by
  have digits : IsDigits decimal.digitChars := isDigits_toDigits decimal.digits
  unfold Decimal.positional
  dsimp only
  split
  · exact .whole (digits.append fun c => isDigit_of_mem_zeros)
  next fraction =>
    split
    next inside =>
      -- the point stands among the digits, with at least one on each side
      have fewer : decimal.pointPosition.toNat < decimal.digitChars.length := by
        unfold Decimal.pointPosition at *
        omega
      refine .fraction ⟨?_, fun c here => digits.digits c (List.mem_of_mem_take here)⟩
        ⟨?_, fun c here => digits.digits c (List.mem_of_mem_drop here)⟩
      · rw [Ne, List.take_eq_nil_iff, not_or]
        exact ⟨by omega, digits.nonempty⟩
      · rw [Ne, List.drop_eq_nil_iff]
        omega
    · have zero : IsDigits ['0'] := ⟨List.cons_ne_nil _ _, List.forall_mem_singleton.2 rfl⟩
      refine .fraction zero ⟨List.append_ne_nil_of_right_ne_nil _ digits.nonempty, ?_⟩
      intro c isMember
      exact (List.mem_append.1 isMember).elim isDigit_of_mem_zeros (digits.digits c)

theorem isNumeral_ordinateText (value : Double) : IsNumeral (ordinateText value).toList := by
  unfold ordinateText
  split
  · have whole : IsMagnitude (Nat.repr value.truncate).toList := by
      rw [Nat.toList_repr]
      exact .whole (isDigits_toDigits _)
    rw [String.toList_append]
    split
    · exact .negative whole
    · exact .unsigned whole
  · rw [Double.plainText, Double.signed, String.toList_ofList]
    split
    · exact .negative (isMagnitude_positional _)
    · exact .unsigned (isMagnitude_positional _)

theorem IsDigits.numeralChars (isDigits : IsDigits text) : ∀ c ∈ text, isNumeralChar c = true := by
  intro c isMember
  simp [isNumeralChar, isDigits.digits c isMember]

theorem IsNumeral.numeralChars (isNumeral : IsNumeral text) :
    ∀ c ∈ text, isNumeralChar c = true := by
  have magnitude : ∀ {text}, IsMagnitude text → ∀ c ∈ text, isNumeralChar c = true := by
    intro text isMagnitude
    cases isMagnitude with
    | whole digits => exact digits.numeralChars
    | fraction digits places =>
      intro c isMember
      rcases List.mem_append.1 isMember with inDigits | inPlaces
      · exact digits.numeralChars c inDigits
      · exact List.forall_mem_cons.2 ⟨by decide, places.numeralChars⟩ c inPlaces
  cases isNumeral with
  | unsigned isMagnitude => exact magnitude isMagnitude
  | negative isMagnitude => exact List.forall_mem_cons.2 ⟨by decide, magnitude isMagnitude⟩

theorem IsNumeral.nonempty (isNumeral : IsNumeral text) : text ≠ [] := by
  cases isNumeral with
  | unsigned isMagnitude =>
    cases isMagnitude with
    | whole digits => exact digits.nonempty
    | fraction digits places => exact List.append_ne_nil_of_left_ne_nil digits.nonempty _
  | negative isMagnitude => exact List.cons_ne_nil _ _

end Wkt

end SearchSql
