import CodedVideo.Hexadecimal

/-!
# Texts of numbers between dots

The digits of a number, decimal or hexadecimal, determine the number, although leading zeros are left
out. None of them is a dot. So a text in which each part stands behind a dot determines its parts, as
long as no part holds a dot itself, and letters in front of digits can be told from the digits.

Main statements: `Hexadecimal.upper_injective` and `flatMap_dot_injective`.
-/

namespace CodedVideo

/-! ## Texts in two parts -/

/-- A text whose front is made of characters of a kind, and whose rest does not open with one of
them, determines both. -/
theorem append_injective_of_kind {isKind : Char → Bool} {front rest otherFront otherRest : List Char}
    (ofKind : ∀ char ∈ front, isKind char = true) (stops : ∀ char ∈ rest.head?, isKind char = false)
    (otherOfKind : ∀ char ∈ otherFront, isKind char = true)
    (otherStops : ∀ char ∈ otherRest.head?, isKind char = false)
    (text_eq : front ++ rest = otherFront ++ otherRest) : front = otherFront ∧ rest = otherRest := by
  have takes {front rest : List Char} (ofKind : ∀ char ∈ front, isKind char = true)
      (stops : ∀ char ∈ rest.head?, isKind char = false) :
      (front ++ rest).takeWhile isKind = front := by
    rw [List.takeWhile_append_of_pos ofKind]
    cases rest with
    | nil => rw [List.takeWhile_nil, List.append_nil]
    | cons char rest =>
        have isOther : ¬ isKind char = true := Bool.eq_false_iff.mp (stops char rfl)
        rw [List.takeWhile_cons_of_neg isOther, List.append_nil]
  have front_eq : front = otherFront := by
    rw [← takes ofKind stops, text_eq, takes otherOfKind otherStops]
  refine ⟨front_eq, ?_⟩
  rw [front_eq] at text_eq
  exact List.append_cancel_left text_eq

/-- Parts without dots are determined by the text in which each stands behind a dot. -/
theorem flatMap_dot_injective {parts others : List (List Char)}
    (free : ∀ part ∈ parts, '.' ∉ part) (otherFree : ∀ part ∈ others, '.' ∉ part)
    (text_eq : parts.flatMap ('.' :: ·) = others.flatMap ('.' :: ·)) : parts = others := by
  have opens (parts : List (List Char)) :
      ∀ char ∈ (parts.flatMap ('.' :: ·)).head?, (char != '.') = false := by
    cases parts with
    | nil => exact nofun
    | cons part parts =>
        rintro _ ⟨⟩
        rfl
  have isNoDot {part : List Char} (free : '.' ∉ part) : ∀ char ∈ part, (char != '.') = true :=
    fun char isChar => bne_iff_ne.mpr fun isDot => free (isDot ▸ isChar)
  induction parts generalizing others with
  | nil =>
      cases others with
      | nil => rfl
      | cons other others => cases text_eq
  | cons part parts inductionHypothesis =>
      cases others with
      | nil => cases text_eq
      | cons other others =>
          rw [List.forall_mem_cons] at free otherFree
          have behind_eq := List.cons_inj_right _ |>.mp text_eq
          obtain ⟨rfl, rest_eq⟩ := append_injective_of_kind (isNoDot free.1) (opens parts)
            (isNoDot otherFree.1) (opens others) behind_eq
          rw [inductionHypothesis free.2 otherFree.2 rest_eq]

/-! ## Decimal numbers -/

theorem isDigit_of_mem_toString {number : Nat} {char : Char}
    (isChar : char ∈ (toString number).toList) : char.isDigit = true := by
  rw [Nat.toString_eq_repr, Nat.toList_repr] at isChar
  exact Nat.isDigit_of_mem_toDigits (by decide) (by decide) isChar

theorem toString_injective {number other : Nat}
    (text_eq : (toString number).toList = (toString other).toList) : number = other := by
  rw [Nat.toString_eq_repr, Nat.toList_repr, Nat.toString_eq_repr, Nat.toList_repr] at text_eq
  rw [← @Nat.ofDigitChars_ten_toDigits number, text_eq, Nat.ofDigitChars_ten_toDigits]

/-- Letters in front of a number can be told from its digits. -/
theorem append_toString_injective {letters otherLetters : List Char} {number other : Nat}
    (noDigits : ∀ char ∈ letters, char.isDigit = false)
    (otherNoDigits : ∀ char ∈ otherLetters, char.isDigit = false)
    (text_eq : letters ++ (toString number).toList = otherLetters ++ (toString other).toList) :
    letters = otherLetters ∧ number = other := by
  have isLetter {letters : List Char} (noDigits : ∀ char ∈ letters, char.isDigit = false) :
      ∀ char ∈ letters, (!char.isDigit) = true :=
    fun char isChar => congrArg not (noDigits char isChar)
  have stops (number : Nat) : ∀ char ∈ (toString number).toList.head?, (!char.isDigit) = false :=
    fun char isFirst => congrArg not (isDigit_of_mem_toString (List.mem_of_mem_head? isFirst))
  obtain ⟨letters_eq, digits_eq⟩ := append_injective_of_kind (isLetter noDigits) (stops number)
    (isLetter otherNoDigits) (stops other) text_eq
  exact ⟨letters_eq, toString_injective digits_eq⟩

theorem dot_notMem_toString (number : Nat) : '.' ∉ (toString number).toList :=
  fun isChar => absurd (isDigit_of_mem_toString isChar) (by decide)

/-! ## Hexadecimal numbers -/

namespace Hexadecimal

/-- The character of an upper-case digit. -/
def upperDigit (digit : Nat) : Char :=
  (Nat.digitChar digit).toUpper

/-- Behind the digits of a sixteenth of a number stands its last digit. -/
theorem toList_upper (number : Nat) :
    (upper number).toList =
      if number < 16 then [upperDigit number]
      else (upper (number / 16)).toList ++ [upperDigit (number % 16)] := by
  simp only [upper, String.toList_ofList]
  rw [Nat.toDigits_eq_if (by decide)]
  split
  · rfl
  · rw [List.map_append]
    rfl

theorem upperDigit_injective {digit other : Nat} (isDigit : digit < 16) (otherIsDigit : other < 16)
    (same : upperDigit digit = upperDigit other) : digit = other := by
  have distinct : ∀ first second : Fin 16, upperDigit first = upperDigit second → first = second := by
    decide
  exact congrArg Fin.val (distinct ⟨digit, isDigit⟩ ⟨other, otherIsDigit⟩ same)

theorem dot_notMem_upper (number : Nat) : '.' ∉ (upper number).toList := by
  have noDot : ∀ digit : Fin 16, '.' ≠ upperDigit digit := by decide
  induction number using Nat.strongRecOn with
  | ind number inductionHypothesis =>
      rw [toList_upper]
      split
      · next isDigit => exact mt List.mem_singleton.mp (noDot ⟨number, isDigit⟩)
      · next notDigit =>
          have front := inductionHypothesis (number / 16) (by omega)
          have last := noDot ⟨number % 16, Nat.mod_lt _ (by decide)⟩
          exact List.not_mem_append front (mt List.mem_singleton.mp last)

/-- A number of several digits is written differently from a single digit. -/
theorem toList_upper_append_ne (number digit otherDigit : Nat) :
    (upper number).toList ++ [upperDigit digit] ≠ [upperDigit otherDigit] := by
  intro text_eq
  have single : (upper number).toList ++ [upperDigit digit] = [] ++ [upperDigit otherDigit] := text_eq
  have isEmpty : (upper number).toList = [] := (List.append_inj' single rfl).1
  rw [toList_upper] at isEmpty
  split at isEmpty
  · cases isEmpty
  · exact List.append_ne_nil_of_right_ne_nil _ (List.cons_ne_nil _ _) isEmpty

/-- Numbers with the same digits are the same. -/
theorem upper_injective {number other : Nat}
    (text_eq : (upper number).toList = (upper other).toList) : number = other := by
  induction number using Nat.strongRecOn generalizing other with
  | ind number inductionHypothesis =>
      rw [toList_upper number, toList_upper other] at text_eq
      by_cases isDigit : number < 16
      · by_cases otherIsDigit : other < 16
        · rw [if_pos isDigit, if_pos otherIsDigit] at text_eq
          exact upperDigit_injective isDigit otherIsDigit (List.singleton_inj.mp text_eq)
        · rw [if_pos isDigit, if_neg otherIsDigit] at text_eq
          exact absurd text_eq.symm (toList_upper_append_ne _ _ _)
      · by_cases otherIsDigit : other < 16
        · rw [if_neg isDigit, if_pos otherIsDigit] at text_eq
          exact absurd text_eq (toList_upper_append_ne _ _ _)
        · rw [if_neg isDigit, if_neg otherIsDigit] at text_eq
          obtain ⟨front_eq, last_eq⟩ := List.append_inj' text_eq rfl
          have quotient_eq := inductionHypothesis (number / 16) (by omega) front_eq
          have digit_eq := upperDigit_injective (Nat.mod_lt _ (by decide))
            (Nat.mod_lt _ (by decide)) (List.singleton_inj.mp last_eq)
          omega

end Hexadecimal

end CodedVideo
