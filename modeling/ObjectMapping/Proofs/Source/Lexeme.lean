/-
This file says when a lexeme is spelt as the scanner reads it, and proves that the scanner reads such a
lexeme off every text that it starts, as long as a separator follows it there.
-/

import ObjectMapping.Proofs.Source.Number
import ObjectMapping.Source.Scan

namespace ObjectMapping.Source

open Text

/-- The part of a text in front of a rest is what the rest was split off. -/
theorem taken_append (text rest : List Char) : taken (text ++ rest) rest = text := by
  simp [taken]

/-- A start without separators stands in front of a separated text only inside the part before it. -/
theorem startsWith_append {start : String} {text rest other : List Char}
    (plain : start.toList.any isSeparator = false) (separated : IsSeparated other)
    (starts : startsWith (text ++ other) start) : startsWith (text ++ rest) start := by
  simp only [startsWith, List.isPrefixOf_iff_prefix] at starts ⊢
  obtain ⟨tail, same⟩ := starts
  obtain ⟨left, rfl, _⟩ | ⟨left, sameStart, sameOther⟩ := List.append_eq_append_iff.mp same
  · exact ⟨left ++ rest, by rw [List.append_assoc]⟩
  · cases left with
    | nil =>
        rw [List.append_nil] at sameStart
        exact ⟨rest, by rw [sameStart]⟩
    | cons char following =>
        have separator : isSeparator char := separated char (by rw [sameOther]; rfl)
        rw [sameStart, List.any_append, List.any_cons, separator] at plain
        simp at plain

theorem IsSeparated.noStart {text : List Char} (separated : IsSeparated text) (start : String)
    (plain : start.toList.head?.any (fun char => !isSeparator char)) : startsWith text start = false := by
  by_contra starts
  simp only [Bool.not_eq_false, startsWith, List.isPrefixOf_iff_prefix] at starts
  obtain ⟨tail, rfl⟩ := starts
  cases front : start.toList with
  | nil =>
      rw [front] at plain
      cases plain
  | cons char others =>
      rw [front] at plain separated
      have separator := separated char rfl
      rw [List.head?_cons, Option.any_some, separator] at plain
      cases plain

/-- The characters of an identifier in its plain or raw form. -/
inductive IsIdentifier : List Char → Prop
  | plain (first : Char) (others : List Char) (start : isIdentifierStart first)
      (continues : ∀ char ∈ others, isIdentifierContinue char) : IsIdentifier (first :: others)
  | raw (first : Char) (others : List Char) (start : isIdentifierStart first)
      (continues : ∀ char ∈ others, isIdentifierContinue char)
      (allowed : neverRaw.contains (String.ofList (first :: others)) = false) :
      IsIdentifier ('r' :: '#' :: first :: others)

theorem IsIdentifier.start {text : List Char} (identifier : IsIdentifier text) :
    text.head?.any isIdentifierStart := by
  cases identifier with
  | plain first others start => exact start
  | raw => rfl

theorem afterIdentifier?_some {full rest : List Char} (found : afterIdentifier? full = some rest) :
    ∃ text, full = text ++ rest ∧ IsIdentifier text ∧
      rest.head?.any isIdentifierContinue = false := by
  fun_cases afterIdentifier? full with
  | case1 raw left word never =>
      rw [afterIdentifier?, word] at found
      simp only [never, ↓reduceIte] at found
      cases found
  | case2 raw left word allowed =>
      rw [afterIdentifier?, word] at found
      simp only [allowed, Bool.false_eq_true, ↓reduceIte] at found
      cases found
      obtain ⟨first, others, same, start, continues, stop⟩ := afterWord?_some word
      have name : taken raw rest = first :: others := by
        rw [same, ← List.cons_append, taken_append]
      rw [name, Bool.not_eq_true] at allowed
      exact ⟨'r' :: '#' :: first :: others, by rw [same]; rfl,
        .raw first others start continues allowed, stop⟩
  | case3 raw word =>
      rw [afterIdentifier?, word] at found
      cases found
  | case4 text notRaw =>
      rw [afterIdentifier?.eq_2 _ notRaw] at found
      obtain ⟨first, others, same, start, continues, stop⟩ := afterWord?_some found
      exact ⟨first :: others, same, .plain first others start continues, stop⟩

theorem afterIdentifier?_append {text other : List Char} (identifier : IsIdentifier text)
    (separated : IsSeparated other) : afterIdentifier? (text ++ other) = some other := by
  have stop := separated.head?_any isIdentifierContinue rfl
  cases identifier with
  | plain first others start continues =>
      have notRaw (raw : List Char) : first :: others ++ other ≠ 'r' :: '#' :: raw := by
        intro same
        rcases others with _ | ⟨second, left⟩
        · have noHash := separated.head?_any (· == '#') rfl
          simp only [List.singleton_append, List.cons.injEq] at same
          rw [same.2] at noHash
          cases noHash
        · cases same
          exact absurd (continues '#' List.mem_cons_self) (by decide)
      rw [afterIdentifier?.eq_2 _ notRaw]
      exact afterWord?_append start continues stop
  | raw first others start continues allowed =>
      have word : afterWord? (first :: others ++ other) = some other :=
        afterWord?_append start continues stop
      rw [List.cons_append, List.cons_append, afterIdentifier?, word]
      simp only [taken_append, allowed, Bool.false_eq_true, ↓reduceIte]

/-- Behind `r`, `br` or `cr` a raw string starts only where the start of a literal stands. -/
theorem afterRaw?_none {dialect : Literal.Dialect} {text : List Char}
    (noQuote : ∀ rest, text ≠ '"' :: rest) (noHash : ∀ rest, text ≠ '#' :: '"' :: rest)
    (noHashes : ∀ rest, text ≠ '#' :: '#' :: rest) : Literal.afterRaw? dialect text = none := by
  have noBody (rest : List Char) : text.dropWhile (· == '#') ≠ '"' :: rest := by
    intro body
    rcases text with _ | ⟨first, others⟩
    · cases body
    · by_cases hash : first = '#'
      · subst hash
        rw [List.dropWhile_cons_of_pos rfl] at body
        rcases others with _ | ⟨second, others⟩
        · cases body
        · by_cases hashes : second = '#'
          · exact noHashes others (by rw [hashes])
          · rw [List.dropWhile_cons_of_neg (by simpa using hashes)] at body
            exact noHash rest (by rw [body])
      · rw [List.dropWhile_cons_of_neg (by simpa using hash)] at body
        exact noQuote rest body
  unfold Literal.afterRaw?
  split
  · next rest body => exact absurd body (noBody rest)
  · rfl

/-- Where no start of a literal stands, a word does not start a literal. -/
theorem afterQuoted?_word {text : List Char} (start : text.head?.any isIdentifierStart)
    (noLiteral : literalStarts.any (startsWith text) = false) : Literal.afterQuoted? text = none := by
  have absent (front : String) (member : front ∈ literalStarts) (rest : List Char) :
      text ≠ front.toList ++ rest := by
    intro same
    have starts : startsWith text front := by
      rw [same, startsWith, List.isPrefixOf_iff_prefix]
      exact List.prefix_append _ _
    rw [List.any_eq_false] at noLiteral
    exact noLiteral front member starts
  fun_cases Literal.afterQuoted? text with
  | case1 => cases start
  | case2 rest =>
      exact afterRaw?_none (fun left same => absent "r\"" (by decide) left (by rw [same]; rfl))
        (fun left same => absent "r#\"" (by decide) left (by rw [same]; rfl))
        (fun left same => absent "r##" (by decide) left (by rw [same]; rfl))
  | case3 rest => exact absurd rfl (absent "b\"" (by decide) rest)
  | case4 rest =>
      exact afterRaw?_none (fun left same => absent "br\"" (by decide) left (by rw [same]; rfl))
        (fun left same => absent "br#" (by decide) ('"' :: left) (by rw [same]; rfl))
        (fun left same => absent "br#" (by decide) ('#' :: left) (by rw [same]; rfl))
  | case5 rest => exact absurd rfl (absent "b'" (by decide) rest)
  | case6 rest => exact absurd rfl (absent "c\"" (by decide) rest)
  | case7 rest =>
      exact afterRaw?_none (fun left same => absent "cr\"" (by decide) left (by rw [same]; rfl))
        (fun left same => absent "cr#" (by decide) ('"' :: left) (by rw [same]; rfl))
        (fun left same => absent "cr#" (by decide) ('#' :: left) (by rw [same]; rfl))
  | case8 => cases start
  | case9 => rfl

theorem isDecimalDigit_start {char : Char} (start : isIdentifierStart char) :
    isDecimalDigit char = false := by
  by_contra digit
  simp only [Bool.not_eq_false, isDecimalDigit, Bool.and_eq_true, decide_eq_true_eq, Char.le_def,
    UInt32.le_iff_toNat_le] at digit
  have low : 48 ≤ char.val.toNat := digit.1
  have high : char.val.toNat ≤ 57 := digit.2
  have sevenBit : isSevenBit char := decide_eq_true (show char.val.toNat < 128 by omega)
  simp only [isIdentifierStart, sevenBit, ↓reduceIte, isBasicLetter, isSmallLetter, isCapitalLetter,
    Bool.or_eq_true, Bool.and_eq_true, decide_eq_true_eq, Char.le_def, UInt32.le_iff_toNat_le,
    beq_iff_eq] at start
  obtain (⟨first, _⟩ | ⟨first, _⟩) | rfl := start
  · have large : 97 ≤ char.val.toNat := first
    omega
  · have large : 65 ≤ char.val.toNat := first
    omega
  · exact absurd high (by decide)

/-- A character that satisfies a test is none of those that do not. -/
theorem not_mem_of_test {test : Char → Bool} {char : Char} (holds : test char) (signs : List Char)
    (none : signs.any test = false) : char ∉ signs :=
  fun member => List.any_eq_false.mp none char member holds

def bracketChars : List Char := ['(', '[', '\x7b', ')', ']', '\x7d']

theorem bracket?_none {char : Char} {rest : List Char} (plain : char ∉ bracketChars) :
    bracket? (char :: rest) = none := by
  simp only [bracketChars, List.mem_cons, List.not_mem_nil, or_false, not_or] at plain
  simp [bracket?, Delimiter.ofOpening?, Delimiter.ofClosing?, Delimiter.all, Delimiter.openingChar,
    Delimiter.closingChar, plain, Ne.symm]

/-- Whether a character in front of a text starts a comment with it. -/
def startsComment (char : Char) (rest : List Char) : Bool :=
  char == '/' && rest.head?.any fun next => next == '/' || next == '*'

theorem startsWithMark_cons (char : Char) (rest : List Char) :
    startsWithMark (char :: rest) = (markChars.contains char && !startsComment char rest) := by
  generalize whole : char :: rest = text
  fun_cases startsWithMark text with
  | case1 =>
      cases whole
      rfl
  | case2 =>
      cases whole
      rfl
  | case3 _ _ noLine noBlock =>
      cases whole
      have noComment : startsComment char rest = false := by
        by_contra comment
        simp only [startsComment, Bool.not_eq_false, Bool.and_eq_true, beq_iff_eq] at comment
        obtain ⟨slash, next⟩ := comment
        rcases rest with _ | ⟨second, others⟩
        · cases next
        · simp only [List.head?_cons, Option.any_some, Bool.or_eq_true, beq_iff_eq] at next
          obtain rfl | rfl := next
          · exact noLine others slash rfl
          · exact noBlock others slash rfl
      rw [noComment, Bool.not_false, Bool.and_true]
  | case4 => cases whole

theorem docComment?_none {char : Char} {rest : List Char} (noComment : startsComment char rest = false) :
    docComment? (char :: rest) = none := by
  generalize whole : char :: rest = text
  fun_cases docComment? text with
  | case5 => rfl
  | _ =>
      cases whole
      cases noComment

theorem mark?_none {char : Char} {rest : List Char} (plain : char ∉ markChars) :
    mark? (char :: rest) = none := by
  have notQuote : char ≠ '\x27' := by
    rintro rfl
    exact plain (by decide)
  have noMark : markChars.contains char = false := by simpa using plain
  rw [mark?.eq_3 _ _ notQuote, startsWithMark_cons, noMark]
  rfl

theorem mark?_append {char : Char} {rest : List Char} (notQuote : char ≠ '\x27')
    (starts : startsWithMark (char :: rest)) :
    mark? (char :: rest) = some (.mark char (startsWithMark rest), rest) := by
  rw [mark?.eq_3 _ _ notQuote, if_pos starts]

namespace Lexeme

/-- The lexeme without a next one that is written at once. -/
def apart : Lexeme → Lexeme
  | .mark char _ => .mark char false
  | lexeme => lexeme

/-- Whether the lexeme is spelt in such a way that the scanner reads it. -/
def IsSpelt (lexeme : Lexeme) : Prop := lexemes? lexeme.text.toList = some ([lexeme.apart], [])

instance (lexeme : Lexeme) : Decidable lexeme.IsSpelt := inferInstanceAs (Decidable (_ = _))

/-- Whether the lexeme is one of those that a separator has to follow. -/
def needsSeparator : Lexeme → Bool
  | .word _ => true
  | .lifetime _ => true
  | .literal _ => true
  | _ => false

end Lexeme

theorem docLexemes_length (isInner : Bool) (comment : List Char) (lexeme : Lexeme) :
    docLexemes isInner comment ≠ [lexeme] := by
  cases isInner <;> simp [docLexemes]

/-- A single lexeme in front of a text is a bracket, a literal, an operator or a word, in this order. -/
theorem lexemes?_single {full rest : List Char} {lexeme : Lexeme}
    (found : lexemes? full = some ([lexeme], rest)) :
    docComment? full = none ∧
      (bracket? full = some (lexeme, rest) ∨
        bracket? full = none ∧ (literal? full = some (lexeme, rest) ∨
          literal? full = none ∧ (mark? full = some (lexeme, rest) ∨
            mark? full = none ∧ word? full = some (lexeme, rest)))) := by
  unfold lexemes? at found
  cases comment : docComment? full with
  | some doc =>
      obtain ⟨isInner, text, left⟩ := doc
      simp only [comment] at found
      split at found
      · simp only [Option.some.injEq, Prod.mk.injEq] at found
        exact absurd found.1 (docLexemes_length isInner text lexeme)
      · cases found
  | none =>
      refine ⟨rfl, ?_⟩
      simp only [comment, Option.map_eq_some_iff, Prod.exists, Prod.mk.injEq, List.cons.injEq, and_true,
        ↓existsAndEq, Option.or_eq_some_iff] at found
      exact found

theorem lexemes?_of_single {full rest : List Char} {lexeme : Lexeme} (noDoc : docComment? full = none)
    (found : ((bracket? full).or ((literal? full).or ((mark? full).or (word? full)))) =
      some (lexeme, rest)) : lexemes? full = some ([lexeme], rest) := by
  rw [lexemes?, noDoc]
  simp only [found, Option.map_some]

theorem bracket?_some {full rest : List Char} {lexeme : Lexeme}
    (found : bracket? full = some (lexeme, rest)) :
    (∃ delimiter, lexeme = .opening delimiter ∧ full = delimiter.openingChar :: rest) ∨
      ∃ delimiter, lexeme = .closing delimiter ∧ full = delimiter.closingChar :: rest := by
  rcases full with _ | ⟨char, following⟩
  · cases found
  · rw [bracket?] at found
    cases opening : Delimiter.ofOpening? char with
    | some delimiter =>
        simp only [opening] at found
        cases found
        have same := List.find?_some opening
        exact .inl ⟨delimiter, rfl, by rw [eq_of_beq same]⟩
    | none =>
        cases closing : Delimiter.ofClosing? char with
        | some delimiter =>
            simp only [opening, closing] at found
            cases found
            have same := List.find?_some closing
            exact .inr ⟨delimiter, rfl, by rw [eq_of_beq same]⟩
        | none =>
            simp only [opening, closing] at found
            cases found

theorem literal?_some {full rest : List Char} {lexeme : Lexeme}
    (found : literal? full = some (lexeme, rest)) :
    ∃ text, lexeme = .literal (String.ofList text) ∧ full = text ++ rest ∧
      text.head?.any startsLiteral ∧
      ∀ other, IsSeparated other → literal? (text ++ other) = some (lexeme, other) := by
  obtain ⟨left, read, same⟩ := Option.map_eq_some_iff.mp found
  cases same
  obtain ⟨text, rfl, head, others⟩ := afterLiteral?_settles read
  refine ⟨text, by rw [taken_append], rfl, head, ?_⟩
  intro other separated
  rw [literal?, others other separated, Option.map_some, taken_append, taken_append]

theorem word?_some {full rest : List Char} {lexeme : Lexeme}
    (found : word? full = some (lexeme, rest)) :
    ∃ text, lexeme = .word (String.ofList text) ∧ full = text ++ rest ∧ IsIdentifier text ∧
      literalStarts.any (startsWith full) = false := by
  unfold word? at found
  split at found
  · cases found
  · next noLiteral =>
      obtain ⟨left, read, same⟩ := Option.map_eq_some_iff.mp found
      cases same
      obtain ⟨text, rfl, identifier, _⟩ := afterIdentifier?_some read
      exact ⟨text, by rw [taken_append], rfl, identifier, by simpa using noLiteral⟩

theorem mark?_some {full rest : List Char} {lexeme : Lexeme}
    (found : mark? full = some (lexeme, rest)) :
    (∃ text, lexeme = .lifetime (String.ofList ('\x27' :: text)) ∧ full = '\x27' :: (text ++ rest) ∧
      IsIdentifier text) ∨
      ∃ char, lexeme = .mark char (startsWithMark rest) ∧ full = char :: rest ∧ char ≠ '\x27' ∧
        startsWithMark full := by
  rcases full with _ | ⟨char, following⟩
  · cases found
  · by_cases quote : char = '\x27'
    · subst quote
      rw [mark?, lifetime?] at found
      split at found
      · next left read =>
          split at found
          · cases found
          · cases found
            obtain ⟨text, rfl, identifier, _⟩ := afterIdentifier?_some read
            exact .inl ⟨text, by rw [taken_append], rfl, identifier⟩
      · cases found
    · rw [mark?.eq_3 _ _ quote] at found
      split at found
      · next starts =>
          cases found
          exact .inr ⟨char, rfl, rfl, quote, starts⟩
      · cases found

theorem literalStarts_append {text rest other : List Char} (separated : IsSeparated other)
    (noLiteral : literalStarts.any (startsWith (text ++ rest)) = false) :
    literalStarts.any (startsWith (text ++ other)) = false := by
  rw [List.any_eq_false] at noLiteral ⊢
  intro start member starts
  refine noLiteral start member (startsWith_append ?_ separated starts)
  have plain : literalStarts.all fun start => !start.toList.any isSeparator := by rfl
  simpa using List.all_eq_true.mp plain start member

/-- A word is read off every text that it starts. -/
theorem lexemes?_word {text other : List Char} (identifier : IsIdentifier text)
    (noLiteral : literalStarts.any (startsWith (text ++ other)) = false) (separated : IsSeparated other) :
    lexemes? (text ++ other) = some ([.word (String.ofList text)], other) := by
  have start := identifier.start
  rcases text with _ | ⟨char, following⟩
  · cases start
  · rw [List.head?_cons, Option.any_some] at start
    have noSlash : startsComment char (following ++ other) = false := by
      have notSlash : char ≠ '/' := by
        rintro rfl
        exact absurd start (by decide)
      simp [startsComment, notSlash]
    apply lexemes?_of_single (docComment?_none noSlash)
    have noLiteralRead : literal? (char :: following ++ other) = none := by
      have noQuote : Literal.afterQuoted? (char :: following ++ other) = none :=
        afterQuoted?_word start noLiteral
      rw [literal?, afterLiteral?, noQuote,
        Literal.afterNumber?_none (by simpa using isDecimalDigit_start start)]
      rfl
    have word : word? (char :: following ++ other) =
        some (.word (String.ofList (char :: following)), other) := by
      rw [word?, noLiteral, afterIdentifier?_append identifier separated, Option.map_some, taken_append]
      rfl
    rw [List.cons_append] at *
    rw [bracket?_none (not_mem_of_test start _ rfl), noLiteralRead,
      mark?_none (not_mem_of_test start _ rfl), word]
    rfl

/-- A lifetime is read off every text that it starts. -/
theorem lexemes?_lifetime {text other : List Char} (identifier : IsIdentifier text)
    (separated : IsSeparated other) :
    lexemes? ('\x27' :: (text ++ other)) =
      some ([.lifetime (String.ofList ('\x27' :: text))], other) := by
  apply lexemes?_of_single (docComment?_none rfl)
  have noChar : Literal.afterChar? Literal.text (text ++ other) = none := by
    cases read : Literal.afterChar? Literal.text (text ++ other) with
    | none => rfl
    | some left =>
        have noQuote := separated.head?_any (· == '\x27') rfl
        obtain ⟨escaped, same, _⟩ | ⟨char, same, _, _⟩ := Literal.afterChar?_cases read
        · cases identifier with
          | plain first others start =>
              cases same
              exact absurd start (by decide)
          | raw => cases same
        · cases identifier with
          | plain first others start continues =>
              rcases others with _ | ⟨second, others⟩
              · simp only [List.cons_append, List.nil_append, List.cons.injEq] at same
                rw [same.2] at noQuote
                cases noQuote
              · simp only [List.cons_append, List.cons.injEq] at same
                rw [same.2.1] at continues
                exact absurd (continues '\x27' List.mem_cons_self) (by decide)
          | raw => cases same
  have noLiteral : literal? ('\x27' :: (text ++ other)) = none := by
    rw [literal?, afterLiteral?, Literal.afterQuoted?, noChar, Literal.afterNumber?_none rfl]
    rfl
  have lifetime : mark? ('\x27' :: (text ++ other)) =
      some (.lifetime (String.ofList ('\x27' :: text)), other) := by
    have noQuote := separated.noStart "'" rfl
    have noHash := separated.noStart "#" rfl
    rw [mark?, lifetime?, afterIdentifier?_append identifier separated]
    simp only [noQuote, noHash, taken_append, Bool.false_and, Bool.or_self, Bool.false_eq_true,
      ↓reduceIte]
  rw [bracket?_none (by decide), noLiteral, lifetime]
  rfl

/-- What the scanner reads as a word, lifetime or literal is read off every text that it starts. -/
theorem lexemes?_settles {full rest : List Char} {lexeme : Lexeme}
    (found : lexemes? full = some ([lexeme], rest)) (separable : lexeme.needsSeparator) :
    full = lexeme.text.toList ++ rest ∧ ∀ other, IsSeparated other →
      lexemes? (lexeme.text.toList ++ other) = some ([lexeme], other) := by
  obtain ⟨noDoc, read | ⟨noBracket, read | ⟨noLiteral, read | ⟨noMark, read⟩⟩⟩⟩ :=
    lexemes?_single found
  · obtain ⟨delimiter, rfl, _⟩ | ⟨delimiter, rfl, _⟩ := bracket?_some read <;> cases separable
  · obtain ⟨text, rfl, rfl, head, others⟩ := literal?_some read
    refine ⟨by rw [Lexeme.text, String.toList_ofList], ?_⟩
    intro other separated
    rw [Lexeme.text, String.toList_ofList]
    rcases text with _ | ⟨char, following⟩
    · cases head
    · rw [List.head?_cons, Option.any_some] at head
      have notSlash : char ≠ '/' := by
        rintro rfl
        exact absurd head (by decide)
      apply lexemes?_of_single
      · exact docComment?_none (by simp [startsComment, notSlash])
      · rw [others other separated, List.cons_append, bracket?_none (not_mem_of_test head _ rfl)]
        rfl
  · obtain ⟨text, rfl, rfl, identifier⟩ | ⟨char, rfl, rfl, _⟩ := mark?_some read
    · refine ⟨by rw [Lexeme.text, String.toList_ofList, List.cons_append], ?_⟩
      intro other separated
      rw [Lexeme.text, String.toList_ofList, List.cons_append]
      exact lexemes?_lifetime identifier separated
    · cases separable
  · obtain ⟨text, rfl, rfl, identifier, noStart⟩ := word?_some read
    refine ⟨by rw [Lexeme.text, String.toList_ofList], ?_⟩
    intro other separated
    rw [Lexeme.text, String.toList_ofList]
    exact lexemes?_word identifier (literalStarts_append separated noStart) separated

end ObjectMapping.Source
