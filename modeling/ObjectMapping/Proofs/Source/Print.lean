/-
This file proves that the text of a list of lexemes is scanned into the same lexemes, apart from
operators that are no longer joint because nothing follows them at once.
-/

import ObjectMapping.Proofs.Source.Balance
import ObjectMapping.Proofs.Source.Scan
import ObjectMapping.Proofs.Text.CharClass

namespace ObjectMapping.Source

open Text

/-- The lexemes that the scanner reads a text as. -/
def ScansAs (text : List Char) (lexemes : List Lexeme) : Prop :=
  ∀ location, ∃ tokens, scanFrom location text = some tokens ∧ tokens.map (·.lexeme) = lexemes

theorem ScansAs.blank {text : List Char} (none : skipBlanks text = []) : ScansAs text [] := by
  intro location
  refine ⟨[], ?_, rfl⟩
  rw [scanFrom]
  simp [none]

theorem ScansAs.step {text start rest : List Char} {front others : List Lexeme}
    (skipped : skipBlanks text = start) (nonempty : start ≠ [])
    (read : lexemes? start = some (front, rest)) (shorter : rest.length < start.length)
    (scans : ScansAs rest others) : ScansAs text (front ++ others) := by
  intro location
  subst skipped
  let place := location.after (taken text (skipBlanks text))
  obtain ⟨tokens, found, same⟩ := scans (place.after (taken (skipBlanks text) rest))
  refine ⟨front.map (fun lexeme => ⟨lexeme, place⟩) ++ tokens, ?_, ?_⟩
  · have notEmpty : (skipBlanks text).isEmpty = false := by simpa using nonempty
    rw [scanFrom]
    simp only [notEmpty, Bool.false_eq_true, ↓reduceIte, read, shorter, ↓reduceDIte]
    exact Option.map_eq_some_iff.mpr ⟨tokens, found, rfl⟩
  · simp [Function.comp_def, same]

theorem skipBlanks_space (text : List Char) : skipBlanks (' ' :: text) = skipBlanks text := by
  rw [skipBlanks.eq_4 _ _ (fun _ slash _ => by cases slash) (fun _ slash _ => by cases slash)]
  rfl

namespace Lexeme

/-- The first character of a spelt lexeme. -/
def headChar (lexeme : Lexeme) : Option Char := lexeme.text.toList.head?

/-- The lexeme starts like an operator; a lifetime and a character do so as well. -/
def startsLikeMark (lexeme : Lexeme) : Bool := lexeme.headChar.any markChars.contains

end Lexeme

/-- What the scanner reads of the text of lexemes: an operator is joint only with an operator. -/
def rejoined : List Lexeme → List Lexeme
  | [] => []
  | .mark char joint :: rest =>
      .mark char (joint && rest.head?.any Lexeme.startsLikeMark) :: rejoined rest
  | lexeme :: rest => lexeme :: rejoined rest

/-- What is written between two neighbours. -/
def gap (left right : Lexeme) : List Char := if left.isSpaced right then [' '] else []

theorem lexemesText_cons_cons (left right : Lexeme) (rest : List Lexeme) :
    (lexemesText (left :: right :: rest)).toList =
      left.text.toList ++ (gap left right ++ (lexemesText (right :: rest)).toList) := by
  rw [lexemesText, gap]
  split <;> simp

/-- What is written behind the first of a list of lexemes. -/
def textBehind (first : Lexeme) : List Lexeme → List Char
  | [] => []
  | next :: rest => gap first next ++ (lexemesText (next :: rest)).toList

theorem lexemesText_cons (first : Lexeme) (rest : List Lexeme) :
    (lexemesText (first :: rest)).toList = first.text.toList ++ textBehind first rest := by
  cases rest with
  | nil => rw [lexemesText, textBehind, List.append_nil]
  | cons next others => exact lexemesText_cons_cons first next others

theorem isBlank_digit {char : Char} (digit : isDecimalDigit char) : isBlank char = false := by
  by_contra blank
  have sevenBit : isSevenBit char := by
    simp only [isDecimalDigit, isSevenBit, Bool.and_eq_true, decide_eq_true_eq, Char.le_def,
      UInt32.le_iff_toNat_le] at digit ⊢
    exact Nat.lt_of_le_of_lt digit.2 (by decide)
  simp only [isDecimalDigit, Bool.and_eq_true, decide_eq_true_eq, Char.le_def,
    UInt32.le_iff_toNat_le] at digit
  simp only [Bool.not_eq_false, isBlank, sevenBit, ↓reduceIte, Bool.or_eq_true, beq_iff_eq,
    Bool.and_eq_true, decide_eq_true_eq, Char.le_def, UInt32.le_iff_toNat_le] at blank
  obtain rfl | ⟨_, last⟩ := blank
  · exact absurd digit (by decide)
  · have low : 48 ≤ char.val.toNat := digit.1
    have high : char.val.toNat ≤ 13 := last
    omega

/-- Whether a character starts a lexeme that is no operator. -/
def startsPlain (char : Char) : Bool :=
  isIdentifierStart char || startsLiteral char || bracketChars.contains char

namespace Lexeme

theorem IsSpelt.head {lexeme : Lexeme} (spelt : lexeme.IsSpelt) :
    ∃ char, lexeme.headChar = some char ∧
      ((∃ joint, lexeme = .mark char joint) ∧ char ∈ markChars ∧ char ≠ '\x27' ∨ startsPlain char) := by
  have ofHead {test : Char → Bool} (head : lexeme.headChar.any test)
      (plain : ∀ char, test char → startsPlain char) : ∃ char, lexeme.headChar = some char ∧
      ((∃ joint, lexeme = .mark char joint) ∧ char ∈ markChars ∧ char ≠ '\x27' ∨ startsPlain char) := by
    obtain ⟨char, same, holds⟩ := (Option.any_eq_true _ _).mp head
    exact ⟨char, same, .inr (plain char holds)⟩
  obtain ⟨_, read | ⟨_, read | ⟨_, read | ⟨_, read⟩⟩⟩⟩ := lexemes?_single spelt
  · have bracket : lexeme.headChar.any bracketChars.contains := by
      obtain ⟨delimiter, _, same⟩ | ⟨delimiter, _, same⟩ := bracket?_some read <;>
        rw [headChar, same] <;> cases delimiter <;> rfl
    refine ofHead bracket fun char holds => ?_
    simp only [startsPlain, Bool.or_eq_true]
    exact .inr holds
  · obtain ⟨text, _, same, head, _⟩ := literal?_some read
    rw [List.append_nil] at same
    rw [← same] at head
    exact ofHead head fun char holds => by simp [startsPlain, holds]
  · obtain ⟨text, _, same, _⟩ | ⟨char, same, split, notQuote, starts⟩ := mark?_some read
    · have quote : lexeme.headChar.any startsLiteral := by
        rw [headChar, same]
        rfl
      exact ofHead quote fun char holds => by simp [startsPlain, holds]
    · refine ⟨char, by rw [headChar, split]; rfl, .inl ⟨?_, ?_, notQuote⟩⟩
      · cases lexeme with
        | mark found joint =>
            cases same
            exact ⟨joint, rfl⟩
        | _ => cases same
      · rw [split, startsWithMark_cons, Bool.and_eq_true] at starts
        simpa using starts.1
  · obtain ⟨text, _, same, identifier, _⟩ := word?_some read
    rw [List.append_nil] at same
    have start := identifier.start
    rw [← same] at start
    exact ofHead start fun char holds => by simp [startsPlain, holds]

theorem startsPlain_notBlank {char : Char} (plain : startsPlain char) : isBlank char = false := by
  simp only [startsPlain, startsLiteral, Literal.startsQuoted, Bool.or_eq_true, List.contains_eq_mem,
    decide_eq_true_eq] at plain
  have signs : (['"', '\x27', 'r', 'b', 'c'] ++ bracketChars).all fun char => !isBlank char := by rfl
  have ofSign (member : char ∈ ['"', '\x27', 'r', 'b', 'c'] ++ bracketChars) : isBlank char = false := by
    simpa using List.all_eq_true.mp signs char member
  obtain (start | quote | digit) | bracket := plain
  · exact isBlank_start start
  · exact ofSign (List.mem_append_left _ quote)
  · exact isBlank_digit digit
  · exact ofSign (List.mem_append_right _ bracket)

/-- A lexeme starts neither with white space nor with the mark of a text file. -/
theorem IsSpelt.head_notBlank {lexeme : Lexeme} (spelt : lexeme.IsSpelt) {char : Char}
    (head : lexeme.headChar = some char) : isBlank char = false ∧ char ≠ '\uFEFF' := by
  obtain ⟨found, same, ⟨_, isMark, _⟩ | plain⟩ := spelt.head
  · obtain rfl : char = found := Option.some.inj (head.symm.trans same)
    have marks : markChars.all fun char => !isBlank char && char != '\uFEFF' := by rfl
    have holds := List.all_eq_true.mp marks char isMark
    simpa using holds
  · obtain rfl : char = found := Option.some.inj (head.symm.trans same)
    refine ⟨startsPlain_notBlank plain, ?_⟩
    rintro rfl
    simp only [startsPlain, isIdentifierStart_byteOrderMark, Bool.false_or] at plain
    cases plain

/-- Only an operator starts with a slash or a star. -/
theorem IsSpelt.of_commentChar {lexeme : Lexeme} (spelt : lexeme.IsSpelt) {char : Char}
    (head : lexeme.headChar = some char) (isSign : char = '/' ∨ char = '*') :
    ∃ joint, lexeme = .mark char joint := by
  obtain ⟨found, same, ⟨isMark, _⟩ | plain⟩ := spelt.head
  · obtain rfl : char = found := Option.some.inj (head.symm.trans same)
    exact isMark
  · obtain rfl : char = found := Option.some.inj (head.symm.trans same)
    obtain rfl | rfl := isSign <;> cases plain

end Lexeme

/-- A space stands behind a lexeme that needs a separator, unless a bracket closes at once. -/
theorem isSpaced_of_needsSeparator {left : Lexeme} (separable : left.needsSeparator) (right : Lexeme) :
    left.isSpaced right ∨ ∃ delimiter, right = .closing delimiter ∧ delimiter ≠ .brace := by
  cases right with
  | closing delimiter =>
      by_cases brace : delimiter = .brace
      · subst brace
        exact .inl (by cases left <;> rfl)
      · exact .inr ⟨delimiter, rfl, brace⟩
  | _ => cases left <;> first | exact .inl rfl | cases separable

/-- What stands behind a lexeme that needs a separator is separated from it. -/
theorem textBehind_separated {first : Lexeme} (separable : first.needsSeparator) (rest : List Lexeme) :
    IsSeparated (textBehind first rest) := by
  cases rest with
  | nil => nofun
  | cons next others =>
      intro char head
      obtain spaced | ⟨delimiter, rfl, notBrace⟩ := isSpaced_of_needsSeparator separable next
      · rw [textBehind, gap, if_pos spaced] at head
        cases head
        rfl
      · have close : char = ' ' ∨ char = delimiter.closingChar := by
          rw [textBehind, gap, lexemesText_cons, Lexeme.text, Char.toString_eq_singleton,
            String.toList_singleton] at head
          split at head
          · cases head
            exact .inl rfl
          · cases head
            exact .inr rfl
        obtain rfl | rfl := close
        · rfl
        · cases delimiter <;> first | rfl | exact absurd rfl notBrace

/-- In front of a bracket that closes no operator is joint. -/
theorem textBehind_closing (char : Char) (joint : Bool) (delimiter : Delimiter) (others : List Lexeme) :
    startsWithMark (textBehind (.mark char joint) (.closing delimiter :: others)) = false ∧
      startsComment char (textBehind (.mark char joint) (.closing delimiter :: others)) = false := by
  have noComment {head : Char} (tail : List Char) (plain : (head == '/' || head == '*') = false) :
      startsComment char (head :: tail) = false := by
    simp only [startsComment, List.head?_cons, Option.any_some, plain, Bool.and_false]
  rw [textBehind, gap, lexemesText_cons, Lexeme.text, Char.toString_eq_singleton,
    String.toList_singleton]
  cases delimiter <;> exact ⟨rfl, noComment _ rfl⟩

theorem textBehind_apart (char : Char) {next : Lexeme} (open_ : ∀ delimiter, next ≠ .closing delimiter)
    (others : List Lexeme) :
    textBehind (.mark char false) (next :: others) = ' ' :: (lexemesText (next :: others)).toList := by
  cases next <;> first | rfl | exact absurd rfl (open_ _)

theorem textBehind_joint (char : Char) {next : Lexeme} (open_ : ∀ delimiter, next ≠ .closing delimiter)
    (others : List Lexeme) :
    textBehind (.mark char true) (next :: others) = (lexemesText (next :: others)).toList := by
  cases next <;> first | rfl | exact absurd rfl (open_ _)

/-- Behind an operator stands another one only if it is joint, and the two start no comment. -/
theorem textBehind_mark {char : Char} {joint : Bool} {rest : List Lexeme}
    (spelt : ∀ lexeme ∈ rest, lexeme.IsSpelt)
    (chain : (Lexeme.mark char joint :: rest).IsChain Lexeme.CanPrecede) :
    startsWithMark (textBehind (.mark char joint) rest) =
        (joint && rest.head?.any Lexeme.startsLikeMark) ∧
      startsComment char (textBehind (.mark char joint) rest) = false := by
  induction rest generalizing char joint with
  | nil => exact ⟨by cases joint <;> rfl, by cases char == '/' <;> simp [textBehind, startsComment]⟩
  | cons next others inductionHypothesis =>
      obtain ⟨nextSpelt, othersSpelt⟩ := List.forall_mem_cons.mp spelt
      obtain ⟨precedes, nextChain⟩ := List.isChain_cons_cons.mp chain
      by_cases closing : ∃ delimiter, next = .closing delimiter
      · obtain ⟨delimiter, rfl⟩ := closing
        obtain ⟨noMark, noComment⟩ := textBehind_closing char joint delimiter others
        refine ⟨?_, noComment⟩
        rw [noMark]
        cases joint <;> cases delimiter <;> rfl
      · have opened : ∀ delimiter, next ≠ .closing delimiter := fun delimiter same =>
          closing ⟨delimiter, same⟩
        cases joint with
        | false =>
            rw [textBehind_apart char opened]
            exact ⟨rfl, by simp [startsComment]⟩
        | true =>
            obtain ⟨head, isHead, _⟩ := nextSpelt.head
            obtain ⟨text, split⟩ : ∃ text, next.text.toList = head :: text :=
              List.head?_eq_some_iff.mp isHead
            have noComment : startsComment head (text ++ textBehind next others) = false := by
              by_cases slash : head = '/'
              · obtain ⟨nextJoint, rfl⟩ := nextSpelt.of_commentChar isHead (.inl slash)
                simp only [Lexeme.text, Char.toString_eq_singleton, String.toList_singleton,
                  List.cons.injEq] at split
                rw [← split.2]
                exact (inductionHypothesis othersSpelt nextChain).2
              · simp [startsComment, slash]
            rw [textBehind_joint char opened, lexemesText_cons, split, List.cons_append]
            refine ⟨?_, ?_⟩
            · rw [startsWithMark_cons, noComment, List.head?_cons, Option.any_some,
                Lexeme.startsLikeMark, isHead, Option.any_some, Bool.not_false, Bool.and_true,
                Bool.true_and]
            · by_contra comment
              simp only [startsComment, List.head?_cons, Option.any_some, Bool.not_eq_false,
                Bool.and_eq_true, beq_iff_eq, Bool.or_eq_true] at comment
              obtain ⟨rfl, isSign⟩ := comment
              obtain ⟨nextJoint, rfl⟩ := nextSpelt.of_commentChar isHead isSign
              obtain ⟨notSlash, notStar⟩ := precedes rfl nextJoint
              obtain rfl | rfl := isSign
              · exact notSlash rfl
              · exact notStar rfl

/-- The scanner reads the first of the lexemes off their text. -/
theorem lexemes?_lexemesText {first : Lexeme} {rest : List Lexeme}
    (spelt : ∀ lexeme ∈ first :: rest, lexeme.IsSpelt)
    (chain : (first :: rest).IsChain Lexeme.CanPrecede) :
    skipBlanks (lexemesText (first :: rest)).toList = (lexemesText (first :: rest)).toList ∧
      ∃ found, rejoined (first :: rest) = found :: rejoined rest ∧
        lexemes? (lexemesText (first :: rest)).toList = some ([found], textBehind first rest) := by
  obtain ⟨firstSpelt, restSpelt⟩ := List.forall_mem_cons.mp spelt
  obtain ⟨head, isHead, _⟩ := firstSpelt.head
  obtain ⟨text, split⟩ : ∃ text, first.text.toList = head :: text := List.head?_eq_some_iff.mp isHead
  obtain ⟨notBlank, _⟩ := firstSpelt.head_notBlank isHead
  rw [lexemesText_cons]
  have noComment : startsComment head (text ++ textBehind first rest) = false := by
    by_cases slash : head = '/'
    · obtain ⟨joint, rfl⟩ := firstSpelt.of_commentChar isHead (.inl slash)
      simp only [Lexeme.text, Char.toString_eq_singleton, String.toList_singleton,
        List.cons.injEq] at split
      rw [← split.2]
      exact (textBehind_mark restSpelt chain).2
    · simp [startsComment, slash]
  constructor
  · rw [split, List.cons_append, skipBlanks_cons notBlank noComment]
  · by_cases separable : first.needsSeparator
    · refine ⟨first, ?_, firstSpelt.lexemes?_append separable (textBehind_separated separable rest)⟩
      cases first <;> first | rfl | cases separable
    · cases first with
      | mark char joint =>
          obtain ⟨starts, noComment⟩ := textBehind_mark restSpelt chain
          refine ⟨.mark char (joint && rest.head?.any Lexeme.startsLikeMark), rfl, ?_⟩
          rw [← starts]
          simpa [Lexeme.text, Char.toString_eq_singleton] using lexemes?_mark firstSpelt noComment
      | opening delimiter =>
          refine ⟨.opening delimiter, rfl, ?_⟩
          simpa [Lexeme.text, Char.toString_eq_singleton] using lexemes?_opening delimiter _
      | closing delimiter =>
          refine ⟨.closing delimiter, rfl, ?_⟩
          simpa [Lexeme.text, Char.toString_eq_singleton] using lexemes?_closing delimiter _
      | _ => exact absurd rfl separable

/-- The text of lexemes is scanned into them, also behind blanks. -/
theorem lexemesText_scansAs {lexemes : List Lexeme} (spelt : ∀ lexeme ∈ lexemes, lexeme.IsSpelt)
    (chain : lexemes.IsChain Lexeme.CanPrecede) {text : List Char}
    (skipped : skipBlanks text = skipBlanks (lexemesText lexemes).toList) :
    ScansAs text (rejoined lexemes) := by
  induction lexemes generalizing text with
  | nil => exact ScansAs.blank (by rw [skipped]; simp [lexemesText, skipBlanks])
  | cons first rest inductionHypothesis =>
      obtain ⟨firstSkipped, found, sameLexemes, read⟩ := lexemes?_lexemesText spelt chain
      obtain ⟨firstSpelt, restSpelt⟩ := List.forall_mem_cons.mp spelt
      have nonempty := firstSpelt.ne_nil
      have behind : ScansAs (textBehind first rest) (rejoined rest) := by
        apply inductionHypothesis restSpelt chain.tail
        cases rest with
        | nil => rfl
        | cons next others =>
            rw [textBehind, gap]
            split
            · exact skipBlanks_space _
            · rfl
      rw [sameLexemes]
      refine ScansAs.step (skipped.trans firstSkipped) ?_ read ?_ behind
      · rw [lexemesText_cons]
        exact List.append_ne_nil_of_left_ne_nil nonempty _
      · rw [lexemesText_cons, List.length_append]
        have positive := List.length_pos_of_ne_nil nonempty
        omega

theorem rejoined_brackets (lexemes : List Lexeme) :
    (rejoined lexemes).map Lexeme.bracket? = lexemes.map Lexeme.bracket? := by
  fun_induction rejoined lexemes with
  | case1 => rfl
  | case2 _ _ _ inductionHypothesis => simp [Lexeme.bracket?, inductionHypothesis]
  | case3 _ _ _ inductionHypothesis => simp [inductionHypothesis]

end ObjectMapping.Source
