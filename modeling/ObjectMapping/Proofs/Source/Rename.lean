/-
This file proves that words are replaced in the text of a phrase by replacing them in each of its lexemes,
and when the text that results is scanned into these lexemes.
-/

import ObjectMapping.Proofs.Source.Phrase
import ObjectMapping.Proofs.Text.Words

namespace ObjectMapping.Source

open Text

/-- The lexeme with the words in its text replaced; operators and brackets hold none. -/
def Lexeme.rename (renames : List WordRename) : Lexeme → Lexeme
  | .word text => .word (renameWords renames text)
  | .lifetime text => .lifetime (renameWords renames text)
  | .literal text => .literal (renameWords renames text)
  | lexeme => lexeme

/-- Each word is an identifier and is replaced by one. -/
def AreIdentifiers (renames : List WordRename) : Prop :=
  ∀ rename ∈ renames, IsIdentifier rename.word ∧ IsIdentifier rename.replacement

namespace IsIdentifier

theorem ne_nil {text : List Char} (identifier : IsIdentifier text) : text ≠ [] := by
  cases identifier <;> exact List.cons_ne_nil _ _

/-- No identifier holds what can stand right behind one. -/
theorem noSeparator {text : List Char} (identifier : IsIdentifier text) {char : Char} (member : char ∈ text) :
    isSeparator char = false := by
  by_contra separator
  have isSign : char ∈ separators := by simpa [isSeparator] using separator
  have notStart : isIdentifierStart char = false :=
    Bool.eq_false_iff.mpr fun start => not_mem_of_test start separators rfl isSign
  have notContinue : isIdentifierContinue char = false :=
    Bool.eq_false_iff.mpr fun continues => not_mem_of_test continues separators rfl isSign
  have notInWord {first : Char} {others : List Char} (start : isIdentifierStart first)
      (continues : ∀ char ∈ others, isIdentifierContinue char) : char ∉ first :: others := by
    intro inWord
    obtain rfl | inOthers := List.mem_cons.mp inWord
    · rw [notStart] at start
      cases start
    · rw [continues char inOthers] at notContinue
      cases notContinue
  cases identifier with
  | plain first others start continues => exact notInWord start continues member
  | raw first others start continues =>
      obtain rfl | member := List.mem_cons.mp member
      · cases notStart
      · obtain rfl | member := List.mem_cons.mp member
        · exact separator rfl
        · exact notInWord start continues member

end IsIdentifier

/-- The characters of operators, brackets and the space between lexemes. -/
def signChars : List Char := ' ' :: (markChars ++ bracketChars)

namespace AreIdentifiers

variable {renames : List WordRename} (identifiers : AreIdentifiers renames)
include identifiers

theorem nonempty : ∀ rename ∈ renames, rename.word ≠ [] :=
  fun rename member => (identifiers rename member).1.ne_nil

/-- The sign in front of a text stays, and the words of the text are replaced as if it stood alone. -/
theorem rename_sign {char : Char} (sign : char ∈ signChars) (rest : List Char) :
    renameWordsAfter renames none false (char :: rest) =
      char :: renameWordsAfter renames none false rest := by
  have plain : signChars.all fun char => !isWordChar char && !isIdentifierStart char := by rfl
  have holds := List.all_eq_true.mp plain char sign
  simp only [Bool.and_eq_true, Bool.not_eq_true'] at holds
  have noStart : ∀ rename ∈ renames, rename.word.head? ≠ some char := by
    intro rename member isHead
    have start := (identifiers rename member).1.start
    rw [isHead, Option.any_some, holds.2] at start
    cases start
  have alike : Alike (some char) none := holds.1
  rw [renameWordsAfter_pass identifiers.nonempty noStart,
    renameWordsAfter_congr identifiers.nonempty alike false false]

/-- The words of a separable lexeme are replaced on their own. -/
theorem rename_separated {text other : List Char} (separated : IsSeparated other) :
    renameWordsAfter renames none false (text ++ other) =
      renameWordsAfter renames none false text ++ renameWordsAfter renames none false other := by
  refine renameWordsAfter_append identifiers.nonempty (fun char isHead => ⟨?_, ?_⟩) none false
  · have noWord := separated.head?_any isWordChar rfl
    rwa [isHead, Option.any_some] at noWord
  · intro rename member inWord
    have separator := separated char isHead
    rw [(identifiers rename member).1.noSeparator inWord] at separator
    cases separator

/-- The words of a lexeme are replaced apart from what is written behind it. -/
theorem rename_lexeme {lexeme : Lexeme} (spelt : lexeme.IsSpelt) (rest : List Lexeme) :
    renameWordsAfter renames none false (lexeme.text.toList ++ textBehind lexeme rest) =
      (lexeme.rename renames).text.toList ++ renameWordsAfter renames none false (textBehind lexeme rest) := by
  have ofSign {char : Char} (sign : char ∈ signChars) (same : lexeme.text = char.toString)
      (kept : lexeme.rename renames = lexeme) :
      renameWordsAfter renames none false (lexeme.text.toList ++ textBehind lexeme rest) =
        (lexeme.rename renames).text.toList ++
          renameWordsAfter renames none false (textBehind lexeme rest) := by
    rw [kept, same, Char.toString_eq_singleton, String.toList_singleton]
    exact identifiers.rename_sign sign _
  cases lexeme with
  | mark char joint =>
      exact ofSign (List.mem_cons_of_mem _ (List.mem_append_left _ spelt.mark.1)) rfl rfl
  | opening delimiter => exact ofSign (by cases delimiter <;> decide) rfl rfl
  | closing delimiter => exact ofSign (by cases delimiter <;> decide) rfl rfl
  | _ =>
      rw [identifiers.rename_separated (textBehind_separated rfl rest), Lexeme.rename, Lexeme.text,
        Lexeme.text, renameWords_toList]

/-- The first character of a lexeme tells an operator from others before and after its words are replaced. -/
theorem startsLikeMark_rename {lexeme : Lexeme} (spelt : lexeme.IsSpelt) :
    (lexeme.rename renames).startsLikeMark = lexeme.startsLikeMark := by
  have replaced : ∀ rename ∈ renames, rename.replacement ≠ [] := fun rename member =>
    (identifiers rename member).2.ne_nil
  have noMark {text : List Char} (identifier : IsIdentifier text) :
      text.head?.any markChars.contains = false := by
    obtain ⟨first, isFirst, start⟩ := (Option.any_eq_true _ _).mp identifier.start
    rw [isFirst, Option.any_some]
    simpa using not_mem_of_test start markChars rfl
  have ofText (text : String) : (renameWords renames text).toList.head?.any markChars.contains =
      text.toList.head?.any markChars.contains := by
    rw [renameWords_toList]
    obtain same | ⟨rename, member, wordHead, head⟩ :=
      renameWordsAfter_head identifiers.nonempty replaced none false text.toList
    · rw [same]
    · rw [head, wordHead, noMark (identifiers rename member).1, noMark (identifiers rename member).2]
  cases lexeme with
  | word text => exact ofText text
  | lifetime text => exact ofText text
  | literal text => exact ofText text
  | _ => rfl

end AreIdentifiers

variable {renames : List WordRename}

namespace Lexeme

theorem isSpaced_rename (left right : Lexeme) :
    (left.rename renames).isSpaced (right.rename renames) = left.isSpaced right := by
  rcases right with _ | _ | _ | _ | _ | (_ | _ | _) <;>
    rcases left with _ | _ | _ | _ | (_ | _ | _) | _ <;> rfl

theorem rename_eq_mark {lexeme : Lexeme} {char : Char} {joint : Bool}
    (same : lexeme.rename renames = .mark char joint) : lexeme = .mark char joint := by
  cases lexeme <;> first | exact same | cases same

theorem bracket?_rename (lexeme : Lexeme) : (lexeme.rename renames).bracket? = lexeme.bracket? := by
  cases lexeme <;> rfl

theorem CanPrecede.rename {left right : Lexeme} (precedes : left.CanPrecede right) :
    (left.rename renames).CanPrecede (right.rename renames) := by
  intro slash joint
  obtain ⟨notSlash, notStar⟩ := precedes (rename_eq_mark slash) joint
  exact ⟨fun same => notSlash (rename_eq_mark same), fun same => notStar (rename_eq_mark same)⟩

end Lexeme

/-- The words of a text of lexemes are replaced lexeme by lexeme. -/
theorem AreIdentifiers.renameWords_lexemesText (identifiers : AreIdentifiers renames)
    {lexemes : List Lexeme} (spelt : ∀ lexeme ∈ lexemes, lexeme.IsSpelt) :
    renameWords renames (lexemesText lexemes) = lexemesText (lexemes.map (·.rename renames)) := by
  refine String.toList_injective ?_
  rw [renameWords_toList]
  induction lexemes with
  | nil => exact renameWordsAfter_nil identifiers.nonempty none false
  | cons first rest inductionHypothesis =>
      obtain ⟨firstSpelt, restSpelt⟩ := List.forall_mem_cons.mp spelt
      have behind : renameWordsAfter renames none false (textBehind first rest) =
          textBehind (first.rename renames) (rest.map (·.rename renames)) := by
        cases rest with
        | nil => exact renameWordsAfter_nil identifiers.nonempty none false
        | cons next others =>
            rw [List.map_cons, textBehind, textBehind, gap, gap, Lexeme.isSpaced_rename, ← List.map_cons,
              ← inductionHypothesis restSpelt]
            split
            · exact identifiers.rename_sign List.mem_cons_self _
            · rfl
      rw [lexemesText_cons, List.map_cons, lexemesText_cons, identifiers.rename_lexeme firstSpelt, behind]

theorem AreIdentifiers.rejoined_rename (identifiers : AreIdentifiers renames) {lexemes : List Lexeme}
    (spelt : ∀ lexeme ∈ lexemes, lexeme.IsSpelt) :
    rejoined (lexemes.map (·.rename renames)) = (rejoined lexemes).map (·.rename renames) := by
  induction lexemes with
  | nil => rfl
  | cons first rest inductionHypothesis =>
      obtain ⟨_, restSpelt⟩ := List.forall_mem_cons.mp spelt
      have behind := inductionHypothesis restSpelt
      cases first with
      | mark char joint =>
          have sameHead : (rest.map (·.rename renames)).head?.any Lexeme.startsLikeMark =
              rest.head?.any Lexeme.startsLikeMark := by
            cases rest with
            | nil => rfl
            | cons next others =>
                exact identifiers.startsLikeMark_rename (restSpelt next List.mem_cons_self)
          rw [rejoined, List.map_cons, List.map_cons, ← behind, ← sameHead]
          rfl
      | _ => exact congrArg (List.cons _) behind

/-- Operators are joined anew, all other lexemes stay. -/
theorem mem_rejoined {lexeme : Lexeme} {lexemes : List Lexeme} (member : lexeme ∈ lexemes)
    (plain : ∀ char joint, lexeme ≠ .mark char joint) : lexeme ∈ rejoined lexemes := by
  fun_induction rejoined lexemes with
  | case1 => cases member
  | case2 char joint rest inductionHypothesis =>
      obtain same | inRest := List.mem_cons.mp member
      · exact absurd same (plain char joint)
      · exact List.mem_cons_of_mem _ (inductionHypothesis inRest)
  | case3 first rest _ inductionHypothesis =>
      obtain rfl | inRest := List.mem_cons.mp member
      · exact List.mem_cons_self
      · exact List.mem_cons_of_mem _ (inductionHypothesis inRest)

/-- The text of a phrase with its words replaced is scanned into the tokens of the phrase with their words
replaced if and only if each of these is still spelt as a token. -/
theorem scan_renamed {tokens : List Token} (phrase : IsPhrase tokens)
    (identifiers : AreIdentifiers renames) :
    ∃ before, scan (tokensText tokens).toList = some before ∧
      ((∃ after, scan (renameWords renames (tokensText tokens)).toList = some after ∧
          after.map (·.lexeme) = before.map (·.lexeme.rename renames)) ↔
        ∀ token ∈ before, (token.lexeme.rename renames).IsSpelt) := by
  obtain ⟨before, scanned, same⟩ := phrase.scan
  refine ⟨before, scanned, ?_, ?_⟩
  · rintro ⟨after, afterScanned, afterSame⟩ token member
    refine (scan_isSource afterScanned).spelt _ ?_
    rw [afterSame]
    exact List.mem_map_of_mem member
  · intro renamedSpelt
    let lexemes := tokens.map (·.lexeme)
    have spelt : ∀ lexeme ∈ lexemes.map (·.rename renames), lexeme.IsSpelt := by
      refine List.forall_mem_map.mpr fun lexeme member => ?_
      by_cases isMark : ∃ char joint, lexeme = .mark char joint
      · obtain ⟨char, joint, rfl⟩ := isMark
        exact phrase.spelt _ member
      · have kept := mem_rejoined member fun char joint same => isMark ⟨char, joint, same⟩
        rw [← same] at kept
        obtain ⟨token, inBefore, rfl⟩ := List.mem_map.mp kept
        exact renamedSpelt token inBefore
    have chained : (lexemes.map (·.rename renames)).IsChain Lexeme.CanPrecede :=
      (List.isChain_map _).mpr (phrase.chained.imp fun _ _ => Lexeme.CanPrecede.rename)
    have brackets : tokens.map (·.lexeme.bracket?) =
        (lexemes.map (·.rename renames)).map Lexeme.bracket? := by
      simp [lexemes, Lexeme.bracket?_rename]
    obtain ⟨after, afterScanned, afterSame⟩ :=
      scan_lexemesText spelt chained phrase.balanced.isBalanced brackets
    refine ⟨after, ?_, ?_⟩
    · rw [tokensText, identifiers.renameWords_lexemesText phrase.spelt]
      exact afterScanned
    · rw [afterSame, identifiers.rejoined_rename phrase.spelt, ← same, List.map_map]
      rfl

namespace Lexeme

/-- A lexeme in which no word stands is left as it is. -/
theorem rename_unchanged {lexeme : Lexeme}
    (absent : ∀ rename ∈ renames, ¬rename.IsIn lexeme.text.toList) : lexeme.rename renames = lexeme := by
  have ofText {text : String} (absent : ∀ rename ∈ renames, ¬rename.IsIn text.toList) :
      renameWords renames text = text := by
    refine String.toList_injective ?_
    rw [renameWords_toList]
    exact renameWordsAfter_unchanged absent
  cases lexeme with
  | word text => exact congrArg Lexeme.word (ofText absent)
  | lifetime text => exact congrArg Lexeme.lifetime (ofText absent)
  | literal text => exact congrArg Lexeme.literal (ofText absent)
  | _ => rfl

theorem rename_sign {lexeme : Lexeme} (sign : ¬lexeme.needsSeparator) : lexeme.rename renames = lexeme := by
  cases lexeme <;> first | rfl | exact absurd rfl sign

/-- An identifier of word characters is replaced if it is one of the words, by what the first one gives. -/
theorem rename_word (identifiers : AreIdentifiers renames) {name : String}
    (wordChars : ∀ char ∈ name.toList, isWordChar char) :
    (Lexeme.word name).rename renames =
      .word ((renames.find? (·.word == name.toList)).elim name fun rename =>
        String.ofList rename.replacement) := by
  refine congrArg Lexeme.word (String.toList_injective ?_)
  rw [renameWords_toList, renameWordsAfter_whole identifiers.nonempty wordChars]
  cases renames.find? (·.word == name.toList) with
  | none => rfl
  | some rename => exact String.toList_ofList.symm

end Lexeme

end ObjectMapping.Source
