/-
This file proves that a number in decimal digits is read as one literal.
-/

import ObjectMapping.Proofs.Source.Quoted

namespace ObjectMapping.Source

open Text Literal

/-- A digit of a number is a decimal digit with a value below ten. -/
theorem toDigits_digit {value : Nat} {char : Char} (member : char ∈ Nat.toDigits 10 value) :
    isDecimalDigit char ∧ ∃ digit < 10, hexDigitValue? char = some digit := by
  have ofDigit {digit : Nat} (small : digit < 10) :
      isDecimalDigit digit.digitChar ∧ ∃ found < 10, hexDigitValue? digit.digitChar = some found := by
    have all : (List.range 10).all fun digit => isDecimalDigit digit.digitChar := by decide
    exact ⟨List.all_eq_true.mp all digit (List.mem_range.mpr small), digit, small,
      hexDigitValue?_digitChar (by omega)⟩
  induction value using Nat.strongRecOn with
  | ind value inductionHypothesis =>
      by_cases small : value < 10
      · rw [Nat.toDigits_of_lt_base small, List.mem_singleton] at member
        exact member ▸ ofDigit small
      · rw [Nat.toDigits_of_base_le (by omega) (Nat.le_of_not_lt small), List.mem_append,
          List.mem_singleton] at member
        obtain member | rfl := member
        · exact inductionHypothesis (value / 10) (by omega) member
        · exact ofDigit (Nat.mod_lt _ (by omega))

theorem afterDigits?_decimal {digits : List Char} {isEmpty : Bool}
    (decimal : ∀ char ∈ digits, isDecimalDigit char ∧ ∃ digit < 10, hexDigitValue? char = some digit)
    (nonempty : isEmpty → digits ≠ []) : afterDigits? 10 isEmpty digits = some [] := by
  induction digits generalizing isEmpty with
  | nil =>
      cases isEmpty with
      | false => rfl
      | true => exact absurd rfl (nonempty rfl)
  | cons char rest inductionHypothesis =>
      obtain ⟨isDigit, digit, small, value⟩ := decimal char List.mem_cons_self
      have noUnderscore : char ≠ '_' := by
        rintro rfl
        cases isDigit
      have restDecimal := fun other member => decimal other (List.mem_cons_of_mem char member)
      rw [afterDigits?, if_neg noUnderscore, value]
      simp only [small, ↓reduceIte]
      exact inductionHypothesis restDecimal fun isEmpty => by cases isEmpty

/-- A number in decimal digits is spelt as the scanner reads it. -/
theorem decimal_isSpelt (value : Nat) : (Lexeme.literal (toString value)).IsSpelt := by
  have chars : (toString value).toList = Nat.toDigits 10 value := by
    simp [toString, Nat.repr]
  have decimal : ∀ char ∈ Nat.toDigits 10 value, isDecimalDigit char ∧
      ∃ digit < 10, hexDigitValue? char = some digit := fun _ => toDigits_digit
  have nonempty : Nat.toDigits 10 value ≠ [] :=
    List.ne_nil_of_length_pos Nat.length_toDigits_pos
  generalize Nat.toDigits 10 value = digits at chars decimal nonempty
  cases digits with
  | nil => exact absurd rfl nonempty
  | cons first rest =>
      obtain ⟨firstDigit, restDecimal⟩ := List.forall_mem_cons.mp decimal
      have letter {char : Char} {others : List Char} (same : rest = char :: others)
          (noDigit : isDecimalDigit char = false) : False := by
        have digit := (restDecimal char (same ▸ List.mem_cons_self)).1
        rw [noDigit] at digit
        cases digit
      have noFraction : afterFraction? (first :: rest) = none := by
        have all : (first :: rest).dropWhile isDigitOrUnderscore = [] :=
          List.dropWhile_eq_nil_iff.mpr fun char member => by
            simp [isDigitOrUnderscore, (decimal char member).1]
        rw [afterFraction?, all]
        simp
      have whole : afterWhole? (first :: rest) = some [] := by
        rw [afterWhole?.eq_4 _ (fun _ same => letter (List.cons.inj same).2 rfl)
          (fun _ same => letter (List.cons.inj same).2 rfl)
          (fun _ same => letter (List.cons.inj same).2 rfl)]
        exact afterDigits?_decimal decimal fun _ => nonempty
      have read : afterLiteral? (first :: rest) = some [] := by
        have noQuote : (first :: rest).head?.any startsQuoted = false := by
          simpa [startsQuoted] using not_mem_of_test firstDigit.1 ['"', '\x27', 'r', 'b', 'c'] (by decide)
        rw [afterLiteral?, afterQuoted?_none noQuote, afterNumber?, noFraction, whole]
        rfl
      have literal : literal? (first :: rest) = some (.literal (toString value), []) := by
        rw [literal?, read, Option.map_some, taken, List.length_nil, Nat.sub_zero, List.take_length,
          ← chars, String.ofList_toList]
      apply lexemes?_of_single
      · rw [Lexeme.text, chars]
        have noSlash : first ≠ '/' := by
          rintro rfl
          cases firstDigit.1
        exact docComment?_none (by simp [startsComment, noSlash])
      · rw [Lexeme.text, chars, literal, bracket?_none (not_mem_of_test firstDigit.1 _ (by decide))]
        rfl

end ObjectMapping.Source
