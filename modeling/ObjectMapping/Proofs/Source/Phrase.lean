/-
This file defines the lists of tokens that a scanned text can hold and those that can be written out as a
phrase, and proves that the text of a phrase is scanned into its tokens.
-/

import ObjectMapping.Proofs.Source.Print

namespace ObjectMapping.Source

/-- What is left of the tokens of a text while it is read. -/
structure IsSource (tokens : List Token) : Prop where
  spelt : ∀ lexeme ∈ tokens.map (·.lexeme), lexeme.IsSpelt
  chained : (tokens.map (·.lexeme)).IsChain Lexeme.CanPrecede
  /-- Brackets that are still open close. -/
  closes : ∃ unclosed, isBalanced unclosed tokens

/-- Tokens that can be written out together, in front of all that can be written behind them. -/
structure IsPhrase (tokens : List Token) : Prop where
  spelt : ∀ lexeme ∈ tokens.map (·.lexeme), lexeme.IsSpelt
  chained : (tokens.map (·.lexeme)).IsChain Lexeme.CanPrecede
  balanced : IsBalanced tokens
  ends : ∀ last ∈ (tokens.map (·.lexeme)).getLast?, last ≠ .mark '/' true

theorem scanFrom_isSource {location : Location} {text : List Char} {tokens : List Token}
    (found : scanFrom location text = some tokens) (balanced : isBalanced [] tokens) :
    IsSource tokens :=
  have sound := scanFrom_sound found
  ⟨sound.1, sound.2.1, [], balanced⟩

/-- The tokens of a text. -/
theorem scan_isSource {text : List Char} {tokens : List Token} (found : scan text = some tokens) :
    IsSource tokens := by
  obtain ⟨scanned, balanced⟩ := Option.filter_eq_some_iff.mp found
  exact scanFrom_isSource scanned balanced

theorem scanFile_isSource {text : String} {tokens : List Token} (found : scanFile text = some tokens) :
    IsSource tokens := scan_isSource found

namespace IsSource

theorem tail {token : Token} {rest : List Token} (source : IsSource (token :: rest)) : IsSource rest := by
  obtain ⟨spelt, chained, unclosed, balanced⟩ := source
  refine ⟨fun lexeme member => spelt lexeme (List.mem_cons_of_mem _ member), chained.tail, ?_⟩
  rw [isBalanced_cons] at balanced
  obtain ⟨opened, _, restBalanced⟩ := (Option.any_eq_true _ _).mp balanced
  exact ⟨opened, restBalanced⟩

theorem suffix {front rest : List Token} (source : IsSource (front ++ rest)) : IsSource rest := by
  induction front with
  | nil => exact source
  | cons token others inductionHypothesis => exact inductionHypothesis source.tail

/-- A part of a source in which brackets match is a phrase if it does not end with a joint slash. -/
theorem phrase {front rest : List Token} (source : IsSource (front ++ rest)) (balanced : IsBalanced front)
    (ends : ∀ last ∈ (front.map (·.lexeme)).getLast?, last ≠ .mark '/' true) : IsPhrase front := by
  obtain ⟨spelt, chained, _⟩ := source
  rw [List.map_append] at spelt chained
  exact ⟨fun lexeme member => spelt lexeme (List.mem_append_left _ member), chained.left_of_append,
    balanced, ends⟩

end IsSource

namespace IsPhrase

theorem nil : IsPhrase [] := ⟨nofun, .nil, .nil, nofun⟩

theorem append {left right : List Token} (leftPhrase : IsPhrase left) (rightPhrase : IsPhrase right) :
    IsPhrase (left ++ right) := by
  refine ⟨?_, ?_, leftPhrase.balanced.append rightPhrase.balanced, ?_⟩
  · intro lexeme member
    rw [List.map_append] at member
    exact (List.mem_append.mp member).elim (leftPhrase.spelt lexeme) (rightPhrase.spelt lexeme)
  · rw [List.map_append]
    refine leftPhrase.chained.append rightPhrase.chained ?_
    intro last isLast next _
    exact .of_ne (leftPhrase.ends last isLast)
  · intro last isLast
    rw [List.map_append, List.getLast?_append] at isLast
    cases ending : (right.map (·.lexeme)).getLast? with
    | none =>
        rw [ending, Option.none_or] at isLast
        exact leftPhrase.ends last isLast
    | some found =>
        rw [ending, Option.some_or] at isLast
        cases isLast
        exact rightPhrase.ends _ ending

/-- A token alone. -/
theorem single {token : Token} (spelt : token.lexeme.IsSpelt) (plain : token.lexeme.bracket? = none)
    (apart : token.lexeme ≠ .mark '/' true) : IsPhrase [token] := by
  refine ⟨by simpa using spelt, .singleton _, .single plain, ?_⟩
  intro last isLast
  cases isLast
  exact apart

end IsPhrase

/-- A text of lexemes whose brackets match is scanned into them. -/
theorem scan_lexemesText {lexemes : List Lexeme} {tokens : List Token}
    (spelt : ∀ lexeme ∈ lexemes, lexeme.IsSpelt) (chained : lexemes.IsChain Lexeme.CanPrecede)
    (balanced : isBalanced [] tokens)
    (brackets : tokens.map (·.lexeme.bracket?) = lexemes.map Lexeme.bracket?) :
    ∃ found, scan (lexemesText lexemes).toList = some found ∧
      found.map (·.lexeme) = rejoined lexemes := by
  have noMark : withoutByteOrderMark (lexemesText lexemes).toList = (lexemesText lexemes).toList := by
    cases lexemes with
    | nil => rfl
    | cons first rest =>
        have firstSpelt := spelt first List.mem_cons_self
        obtain ⟨head, isHead, _⟩ := firstSpelt.head
        obtain ⟨text, split⟩ : ∃ text, first.text.toList = head :: text :=
          List.head?_eq_some_iff.mp isHead
        rw [lexemesText_cons, split, List.cons_append, withoutByteOrderMark.eq_2]
        intro _ same
        exact (firstSpelt.head_notBlank isHead).2 (List.cons.inj same).1
  obtain ⟨found, scanned, same⟩ := lexemesText_scansAs spelt chained rfl Location.startOfText
  refine ⟨found, ?_, same⟩
  have foundBalanced : isBalanced [] found := by
    rw [@isBalanced_congr _ _ tokens, balanced]
    rw [brackets, ← rejoined_brackets, ← same, List.map_map]
    rfl
  rw [scan, noMark, scanned]
  exact Option.filter_eq_some_iff.mpr ⟨rfl, foundBalanced⟩

/-- The text of a phrase is scanned into its tokens. -/
theorem IsPhrase.scan {tokens : List Token} (phrase : IsPhrase tokens) :
    ∃ found, scan (tokensText tokens).toList = some found ∧
      found.map (·.lexeme) = rejoined (tokens.map (·.lexeme)) :=
  scan_lexemesText phrase.spelt phrase.chained phrase.balanced.isBalanced (by simp)

end ObjectMapping.Source
