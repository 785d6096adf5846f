/-
This file proves what the tokens of a text are like: each is spelt as the scanner reads it, no two
neighbours would start a comment if they were written at once, and the brackets match.
-/

import Mathlib.Data.List.Chain
import ObjectMapping.Proofs.Source.Spelling

namespace ObjectMapping.Source

open Text

/-- Whether a lexeme can stand in front of another one: a slash that is written at once with what follows
must not start a comment. -/
def Lexeme.CanPrecede (left right : Lexeme) : Prop :=
  left = .mark '/' true → ∀ joint, right ≠ .mark '/' joint ∧ right ≠ .mark '*' joint

theorem Lexeme.CanPrecede.of_ne {left right : Lexeme} (other : left ≠ .mark '/' true) :
    left.CanPrecede right := fun same => absurd same other

theorem skipBlanks_cons {char : Char} {rest : List Char} (notBlank : isBlank char = false)
    (noComment : startsComment char rest = false) : skipBlanks (char :: rest) = char :: rest := by
  have noLine (tail : List Char) (slash : char = '/') (line : rest = '/' :: tail) : False := by
    rw [slash, line] at noComment
    cases noComment
  have noBlock (tail : List Char) (slash : char = '/') (block : rest = '*' :: tail) : False := by
    rw [slash, block] at noComment
    cases noComment
  rw [skipBlanks.eq_4 _ _ noLine noBlock, if_neg (by simpa using notBlank)]

/-- Nothing is skipped in front of an operator. -/
theorem skipBlanks_mark {text : List Char} (starts : startsWithMark text) : skipBlanks text = text := by
  rcases text with _ | ⟨char, rest⟩
  · cases starts
  · rw [startsWithMark_cons, Bool.and_eq_true, Bool.not_eq_true'] at starts
    obtain ⟨isMark, noComment⟩ := starts
    have plain : markChars.all fun char => !isBlank char := by rfl
    have notBlank := List.all_eq_true.mp plain char (by simpa using isMark)
    exact skipBlanks_cons (by simpa using notBlank) noComment

/-- The scanner reads a documentation comment or a single lexeme. -/
theorem lexemes?_some {full rest : List Char} {lexemes : List Lexeme}
    (found : lexemes? full = some (lexemes, rest)) :
    docComment? full ≠ none ∧ (∃ isInner comment, lexemes = docLexemes isInner comment) ∨
      ∃ lexeme, lexemes = [lexeme] := by
  unfold lexemes? at found
  cases comment : docComment? full with
  | some doc =>
      obtain ⟨isInner, text, left⟩ := doc
      simp only [comment] at found
      split at found
      · cases found
        exact .inl ⟨nofun, isInner, text, rfl⟩
      · cases found
  | none =>
      simp only [comment] at found
      obtain ⟨⟨lexeme, left⟩, _, same⟩ := Option.map_eq_some_iff.mp found
      cases same
      exact .inr ⟨lexeme, rfl⟩

theorem docLexemes_isChain (isInner : Bool) (comment : List Char) :
    (docLexemes isInner comment).IsChain Lexeme.CanPrecede := by
  cases isInner <;>
    simp [docLexemes, Lexeme.CanPrecede]

theorem docLexemes_getLast? (isInner : Bool) (comment : List Char) :
    (docLexemes isInner comment).getLast? = some (.closing .bracket) := by
  cases isInner <;> rfl

/-- An operator starts no documentation comment. -/
theorem docComment?_mark {text : List Char} (starts : startsWithMark text) : docComment? text = none := by
  rcases text with _ | ⟨char, rest⟩
  · cases starts
  · rw [startsWithMark_cons, Bool.and_eq_true, Bool.not_eq_true'] at starts
    exact docComment?_none starts.2

/-- What follows a joint operator is an operator and makes no comment with it. -/
theorem lexemes?_joint {full rest : List Char} {char : Char}
    (found : lexemes? full = some ([.mark char true], rest)) :
    startsWithMark rest ∧ startsComment char rest = false := by
  obtain ⟨_, read | ⟨_, read | ⟨_, read | ⟨_, read⟩⟩⟩⟩ := lexemes?_single found
  · obtain ⟨delimiter, same, _⟩ | ⟨delimiter, same, _⟩ := bracket?_some read <;> cases same
  · obtain ⟨text, same, _⟩ := literal?_some read
    cases same
  · obtain ⟨text, same, _⟩ | ⟨mark, same, rfl, _, starts⟩ := mark?_some read
    · cases same
    · simp only [Lexeme.mark.injEq] at same
      obtain ⟨rfl, joint⟩ := same
      rw [startsWithMark_cons, Bool.and_eq_true, Bool.not_eq_true'] at starts
      exact ⟨joint.symm, starts.2⟩
  · obtain ⟨text, same, _⟩ := word?_some read
    cases same

theorem scanFrom_sound {location : Location} {text : List Char} {tokens : List Token}
    (found : scanFrom location text = some tokens) :
    (∀ lexeme ∈ tokens.map (·.lexeme), lexeme.IsSpelt) ∧
      (tokens.map (·.lexeme)).IsChain Lexeme.CanPrecede ∧
      (startsWithMark text →
        ∀ first ∈ (tokens.map (·.lexeme)).head?, first.text.toList.head? = text.head?) := by
  fun_induction scanFrom location text generalizing tokens with
  | case1 =>
      cases found
      exact ⟨nofun, .nil, nofun⟩
  | case2 => cases found
  | case3 location text start nonempty lexemes rest read shorter _ place =>
      rename_i inductionHypothesis
      obtain ⟨others, scanned, rfl⟩ := Option.map_eq_some_iff.mp found
      obtain ⟨spelt, chain, head⟩ := inductionHypothesis scanned
      have sameLexemes : (lexemes.map (fun lexeme => Token.mk lexeme place) ++ others).map (·.lexeme) =
          lexemes ++ others.map (·.lexeme) := by
        simp [Function.comp_def]
      rw [sameLexemes]
      obtain ⟨doc, isInner, comment, rfl⟩ | ⟨lexeme, rfl⟩ := lexemes?_some read
      · refine ⟨?_, ?_, ?_⟩
        · intro lexeme member
          obtain member | member := List.mem_append.mp member
          · exact Lexeme.docLexemes_isSpelt isInner comment lexeme member
          · exact spelt lexeme member
        · refine List.isChain_append.mpr ⟨docLexemes_isChain isInner comment, chain, ?_⟩
          intro last isLast next _
          rw [docLexemes_getLast?] at isLast
          cases isLast
          exact .of_ne nofun
        · intro starts
          rw [show start = text from skipBlanks_mark starts, docComment?_mark starts] at doc
          exact absurd rfl doc
      · obtain ⟨isSpelt, split⟩ := lexemes?_isSpelt read
        refine ⟨List.forall_mem_cons.mpr ⟨isSpelt, spelt⟩, ?_, ?_⟩
        · refine List.isChain_append.mpr ⟨.singleton lexeme, chain, ?_⟩
          intro last isLast next isNext
          cases isLast
          rintro rfl
          obtain ⟨starts, noComment⟩ := lexemes?_joint read
          have sameHead := head starts next isNext
          intro joint
          constructor <;>
          · rintro rfl
            simp [startsComment, ← sameHead, Lexeme.text] at noComment
        · intro starts first isFirst
          cases isFirst
          rw [show start = text from skipBlanks_mark starts] at split
          rw [split, List.head?_append_of_ne_nil _ isSpelt.ne_nil]
  | case4 => cases found

end ObjectMapping.Source
