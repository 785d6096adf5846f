/-
This file proves that every text that is written as a string literal is read as one literal.
-/

import ObjectMapping.Proofs.Source.Lexeme

namespace ObjectMapping.Source

open Text Literal

theorem hexDigitValue?_digitChar {value : Nat} (small : value < 16) :
    hexDigitValue? value.digitChar = some value := by
  have all : (List.range 16).all fun value => hexDigitValue? value.digitChar == some value := rfl
  exact eq_of_beq (List.all_eq_true.mp all value (List.mem_range.mpr small))

/-- The digits of a number are read one after the other. -/
theorem afterWideCode?_digits (dialect : Dialect) (value : Nat) (rest : List Char)
    (short : (Nat.toDigits 16 value).length ≤ 6) :
    afterWideCode? dialect 0 0 (Nat.toDigits 16 value ++ rest) =
      afterWideCode? dialect (Nat.toDigits 16 value).length value rest := by
  induction value using Nat.strongRecOn generalizing rest with
  | ind value inductionHypothesis =>
      by_cases small : value < 16
      · rw [Nat.toDigits_of_lt_base small, List.singleton_append, afterWideCode?]
        simp only [hexDigitValue?_digitChar small, Nat.zero_lt_succ, ↓reduceIte, Nat.mul_zero,
          Nat.zero_add, List.length_cons, List.length_nil]
      · have split := Nat.toDigits_of_base_le (b := 16) (by omega) (Nat.le_of_not_lt small)
        rw [split, List.length_append, List.length_singleton] at short
        rw [split, List.append_assoc, List.singleton_append,
          inductionHypothesis (value / 16) (by omega) _ (by omega), afterWideCode?]
        have digit := hexDigitValue?_digitChar (Nat.mod_lt value (by omega : 0 < 16))
        have fewer : (Nat.toDigits 16 (value / 16)).length < 6 := by omega
        simp only [digit, fewer, ↓reduceIte, List.length_append, List.length_singleton]
        rw [Nat.div_add_mod]

theorem afterString?_escape (first : Char) (escape rest : List Char) (noLineEnd : isLineEnd first = false)
    (read : afterEscape? text (first :: (escape ++ rest)) = some rest) :
    afterString? text ('\\' :: first :: (escape ++ rest)) = afterString? text rest := by
  have stringRead : afterStringEscape? text (first :: (escape ++ rest)) = some rest := by
    rw [afterStringEscape?, List.head?_cons, Option.any_some, noLineEnd]
    exact read
  have shorter : rest.length ≤ (first :: (escape ++ rest)).length := by
    simp only [List.length_cons, List.length_append]
    omega
  rw [afterString?, stringRead]
  simp only [shorter, ↓reduceDIte]

/-- A character that is shown by its number is read. -/
theorem afterEscape?_number (char : Char) (rest : List Char) :
    afterEscape? text ('u' :: '\x7b' :: (Nat.toDigits 16 char.toNat ++ '\x7d' :: rest)) = some rest := by
  have valid : char.toNat.isValidChar := char.valid
  have bound : char.toNat < 16 ^ 6 := by
    simp only [Nat.isValidChar] at valid
    omega
  have short : (Nat.toDigits 16 char.toNat).length ≤ 6 :=
    (Nat.length_toDigits_le_iff (by omega) (by omega)).mpr bound
  have nonempty : (Nat.toDigits 16 char.toNat).length ≠ 0 := by
    have positive := @Nat.length_toDigits_pos 16 char.toNat
    omega
  have admitted : text.admitsValue char.toNat = true := by
    simp [Dialect.admitsValue, valid, text]
  rw [afterEscape?, show text.wideEscapes = true from rfl, if_pos rfl,
    afterWideCode?_digits _ _ _ short, afterWideCode?]
  simp only [show hexDigitValue? '\x7d' = none from rfl, nonempty, ↓reduceIte, admitted, and_self,
    show ('\x7d' = '_') = False from by decide]

/-- A character of a string literal is read as it is written. -/
theorem afterString?_quotedChar (char : Char) (next : Option Char) (rest : List Char) :
    afterString? text ((quotedChar char next).toList ++ rest) = afterString? text rest := by
  fun_cases quotedChar char next with
  | case1 => exact afterString?_escape 'x' ['0', '0'] rest rfl rfl
  | case2 => exact afterString?_escape '0' [] rest rfl rfl
  | case3 => exact afterString?_escape 't' [] rest rfl rfl
  | case4 => exact afterString?_escape 'r' [] rest rfl rfl
  | case5 => exact afterString?_escape 'n' [] rest rfl rfl
  | case6 => exact afterString?_escape '"' [] rest rfl rfl
  | case7 => exact afterString?_escape '\\' [] rest rfl rfl
  | case8 char _ _ _ _ _ _ shown =>
      have read := afterEscape?_number char rest
      have chars : ("\\u\x7b" ++ String.ofList (Nat.toDigits 16 char.toNat) ++ "\x7d").toList ++ rest =
          '\\' :: 'u' :: ('\x7b' :: Nat.toDigits 16 char.toNat ++ ['\x7d'] ++ rest) := by
        simp
      rw [chars]
      refine afterString?_escape 'u' _ rest rfl ?_
      simpa using read
  | case9 char noZero noTab noReturn noLineFeed noQuote noBackslash plain =>
      have admitted : text.admits char = true := by
        simp [Dialect.admits, text]
      rw [Char.toString_eq_singleton, String.toList_singleton, List.singleton_append,
        afterString?.eq_6 _ _ _ noQuote (fun _ same _ => noReturn same) noReturn
          noBackslash, if_pos admitted]

theorem afterString?_quotedChars (chars rest : List Char) :
    afterString? text ((quotedChars chars).toList ++ '"' :: rest) = some rest := by
  induction chars with
  | nil => rw [quotedChars, String.toList_empty, List.nil_append, afterString?]
  | cons char others inductionHypothesis =>
      rw [quotedChars, String.toList_append, List.append_assoc, afterString?_quotedChar,
        inductionHypothesis]

/-- A text that is written as a string literal is spelt as the scanner reads it. -/
theorem quoted_isSpelt (content : String) : (Lexeme.literal (quoted content)).IsSpelt := by
  have chars : (quoted content).toList = '"' :: ((quotedChars content.toList).toList ++ ['"']) := by
    simp [quoted]
  have read : afterLiteral? (quoted content).toList = some [] := by
    rw [afterLiteral?, chars, afterQuoted?, afterString?_quotedChars]
    rfl
  apply lexemes?_of_single
  · rw [Lexeme.text, chars]
    exact docComment?_none rfl
  · have literal : literal? (quoted content).toList = some (.literal (quoted content), []) := by
      rw [literal?, read, Option.map_some]
      simp [taken]
    rw [Lexeme.text, literal, chars, bracket?_none (by decide)]
    rfl

end ObjectMapping.Source
