/-
This file proves that every lexeme that the scanner reads is spelt as it reads it, and what the scanner
reads of a spelt lexeme with a text behind it.
-/

import ObjectMapping.Proofs.Source.Quoted

namespace ObjectMapping.Source

open Text

namespace Lexeme

theorem apart_of_needsSeparator {lexeme : Lexeme} (separable : lexeme.needsSeparator) :
    lexeme.apart = lexeme := by
  cases lexeme <;> first | rfl | cases separable

theorem opening_isSpelt (delimiter : Delimiter) : (Lexeme.opening delimiter).IsSpelt := by
  cases delimiter <;> rfl

theorem closing_isSpelt (delimiter : Delimiter) : (Lexeme.closing delimiter).IsSpelt := by
  cases delimiter <;> rfl

theorem mark_isSpelt {char : Char} (joint : Bool) (isMark : char ∈ markChars) (notQuote : char ≠ '\x27') :
    (Lexeme.mark char joint).IsSpelt := by
  have all : markChars.all fun char => char == '\x27' || decide (Lexeme.mark char false).IsSpelt := rfl
  have spelt := List.all_eq_true.mp all char isMark
  simp only [Bool.or_eq_true, beq_iff_eq, notQuote, false_or, decide_eq_true_eq] at spelt
  exact spelt

/-- A spelt lexeme that needs a separator is read off every text that it starts. -/
theorem IsSpelt.lexemes?_append {lexeme : Lexeme} (spelt : lexeme.IsSpelt)
    (separable : lexeme.needsSeparator) {other : List Char} (separated : IsSeparated other) :
    lexemes? (lexeme.text.toList ++ other) = some ([lexeme], other) := by
  have found : lexemes? lexeme.text.toList = some ([lexeme], []) :=
    spelt.trans (by rw [apart_of_needsSeparator separable])
  exact (lexemes?_settles found separable).2 other separated

theorem IsSpelt.ne_nil {lexeme : Lexeme} (spelt : lexeme.IsSpelt) : lexeme.text.toList ≠ [] := by
  intro empty
  rw [IsSpelt, empty] at spelt
  cases spelt

/-- The characters of operators. -/
theorem IsSpelt.mark {char : Char} {joint : Bool} (spelt : (Lexeme.mark char joint).IsSpelt) :
    char ∈ markChars ∧ char ≠ '\x27' := by
  have found : lexemes? [char] = some ([.mark char false], []) := by
    simpa only [IsSpelt, text, Char.toString_eq_singleton, String.toList_singleton, apart] using spelt
  obtain ⟨_, read | ⟨_, read | ⟨_, read | ⟨_, read⟩⟩⟩⟩ := lexemes?_single found
  · obtain ⟨delimiter, same, _⟩ | ⟨delimiter, same, _⟩ := bracket?_some read <;> cases same
  · obtain ⟨text, same, _⟩ := literal?_some read
    cases same
  · obtain ⟨text, same, _⟩ | ⟨found, same, _, notQuote, starts⟩ := mark?_some read
    · cases same
    · cases same
      rw [startsWithMark_cons, Bool.and_eq_true] at starts
      exact ⟨by simpa using starts.1, notQuote⟩
  · obtain ⟨text, same, _⟩ := word?_some read
    cases same

/-- A word is an identifier. -/
theorem IsSpelt.word {name : String} (spelt : (Lexeme.word name).IsSpelt) :
    IsIdentifier name.toList := by
  obtain ⟨_, read | ⟨_, read | ⟨_, read | ⟨_, read⟩⟩⟩⟩ := lexemes?_single spelt
  · obtain ⟨delimiter, same, _⟩ | ⟨delimiter, same, _⟩ := bracket?_some read <;> cases same
  · obtain ⟨text, same, _⟩ := literal?_some read
    cases same
  · obtain ⟨text, same, _⟩ | ⟨char, same, _⟩ := mark?_some read <;> cases same
  · obtain ⟨text, same, _, identifier, _⟩ := word?_some read
    cases same
    rwa [String.toList_ofList]

theorem docLexemes_isSpelt (isInner : Bool) (comment : List Char) :
    ∀ lexeme ∈ docLexemes isInner comment, lexeme.IsSpelt := by
  have word : (Lexeme.word "doc").IsSpelt := rfl
  have hash : (Lexeme.mark '#' false).IsSpelt := mark_isSpelt false (by decide) (by decide)
  have inner : (Lexeme.mark '!' false).IsSpelt := mark_isSpelt false (by decide) (by decide)
  have equals : (Lexeme.mark '=' false).IsSpelt := mark_isSpelt false (by decide) (by decide)
  have content := quoted_isSpelt (String.ofList comment)
  have outerPart : ∀ lexeme ∈ [Lexeme.opening .bracket, .word "doc", .mark '=' false,
      .literal (quoted (String.ofList comment)), .closing .bracket], lexeme.IsSpelt := by
    simp only [List.forall_mem_cons]
    exact ⟨opening_isSpelt _, word, equals, content, closing_isSpelt _, nofun⟩
  cases isInner with
  | false => exact List.forall_mem_cons.mpr ⟨hash, outerPart⟩
  | true => exact List.forall_mem_cons.mpr ⟨hash, List.forall_mem_cons.mpr ⟨inner, outerPart⟩⟩

end Lexeme

/-- What the scanner reads alone is spelt as it reads it. -/
theorem lexemes?_isSpelt {full rest : List Char} {lexeme : Lexeme}
    (found : lexemes? full = some ([lexeme], rest)) :
    lexeme.IsSpelt ∧ full = lexeme.text.toList ++ rest := by
  by_cases separable : lexeme.needsSeparator
  · obtain ⟨split, others⟩ := lexemes?_settles found separable
    have alone := others [] nofun
    rw [List.append_nil] at alone
    exact ⟨alone.trans (by rw [Lexeme.apart_of_needsSeparator separable]), split⟩
  · obtain ⟨_, read | ⟨_, read | ⟨_, read | ⟨_, read⟩⟩⟩⟩ := lexemes?_single found
    · obtain ⟨delimiter, rfl, rfl⟩ | ⟨delimiter, rfl, rfl⟩ := bracket?_some read
      · exact ⟨Lexeme.opening_isSpelt delimiter, by simp [Lexeme.text, Char.toString_eq_singleton]⟩
      · exact ⟨Lexeme.closing_isSpelt delimiter, by simp [Lexeme.text, Char.toString_eq_singleton]⟩
    · obtain ⟨text, rfl, _⟩ := literal?_some read
      exact absurd rfl separable
    · obtain ⟨text, rfl, _⟩ | ⟨char, rfl, rfl, notQuote, starts⟩ := mark?_some read
      · exact absurd rfl separable
      · rw [startsWithMark_cons, Bool.and_eq_true] at starts
        exact ⟨Lexeme.mark_isSpelt _ (by simpa using starts.1) notQuote,
          by simp [Lexeme.text, Char.toString_eq_singleton]⟩
    · obtain ⟨text, rfl, _⟩ := word?_some read
      exact absurd rfl separable

/-- A mark in front of a text that makes no comment with it is read alone. -/
theorem lexemes?_mark {char : Char} {joint : Bool} (spelt : (Lexeme.mark char joint).IsSpelt)
    {other : List Char} (noComment : startsComment char other = false) :
    lexemes? (char :: other) = some ([.mark char (startsWithMark other)], other) := by
  obtain ⟨isMark, notQuote⟩ := spelt.mark
  have starts : startsWithMark (char :: other) := by
    simpa [startsWithMark_cons, noComment] using isMark
  have plain : markChars.all fun char =>
      char == '\x27' || (!startsLiteral char && !bracketChars.contains char) := by rfl
  have noOther := List.all_eq_true.mp plain char isMark
  simp only [Bool.or_eq_true, beq_iff_eq, notQuote, false_or, Bool.and_eq_true, Bool.not_eq_true',
    List.contains_eq_mem, decide_eq_false_iff_not] at noOther
  have noLiteral : literal? (char :: other) = none := by
    rw [literal?, afterLiteral?_none (by simpa using noOther.1)]
    rfl
  apply lexemes?_of_single (docComment?_none noComment)
  rw [bracket?_none noOther.2, noLiteral, mark?_append notQuote starts]
  rfl

theorem lexemes?_opening (delimiter : Delimiter) (other : List Char) :
    lexemes? (delimiter.openingChar :: other) = some ([.opening delimiter], other) := by
  apply lexemes?_of_single
  · cases delimiter <;> exact docComment?_none rfl
  · cases delimiter <;> rfl

theorem lexemes?_closing (delimiter : Delimiter) (other : List Char) :
    lexemes? (delimiter.closingChar :: other) = some ([.closing delimiter], other) := by
  apply lexemes?_of_single
  · cases delimiter <;> exact docComment?_none rfl
  · cases delimiter <;> rfl

end ObjectMapping.Source
