/-
This file proves that matching brackets stay matching where phrases are put together, and that a pair of
brackets is skipped with all it holds.
-/

import ObjectMapping.Source.Ahead
import ObjectMapping.Source.Scan

namespace ObjectMapping.Source

/-- The bracket that a lexeme is, and whether it opens. -/
def Lexeme.bracket? : Lexeme → Option (Bool × Delimiter)
  | .opening delimiter => some (true, delimiter)
  | .closing delimiter => some (false, delimiter)
  | _ => none

/-- The open brackets behind a lexeme, unless it closes a bracket that is not the innermost. -/
def afterBracket? (unclosed : List Delimiter) : Option (Bool × Delimiter) → Option (List Delimiter)
  | none => some unclosed
  | some (true, delimiter) => some (delimiter :: unclosed)
  | some (false, delimiter) =>
      match unclosed with
      | [] => none
      | innermost :: outer => if innermost = delimiter then some outer else none

theorem isBalanced_cons (unclosed : List Delimiter) (token : Token) (rest : List Token) :
    isBalanced unclosed (token :: rest) =
      (afterBracket? unclosed token.lexeme.bracket?).any fun open_ => isBalanced open_ rest := by
  rw [isBalanced]
  cases token.lexeme with
  | closing delimiter =>
      cases unclosed with
      | nil => rfl
      | cons innermost outer =>
          by_cases same : innermost = delimiter <;> simp [Lexeme.bracket?, afterBracket?, same]
  | _ => rfl

/-- Whether brackets match depends on the brackets alone. -/
theorem isBalanced_congr {unclosed : List Delimiter} {left right : List Token}
    (same : left.map (·.lexeme.bracket?) = right.map (·.lexeme.bracket?)) :
    isBalanced unclosed left = isBalanced unclosed right := by
  induction left generalizing right unclosed with
  | nil =>
      cases right with
      | nil => rfl
      | cons token rest => cases same
  | cons token rest inductionHypothesis =>
      cases right with
      | nil => cases same
      | cons other others =>
          obtain ⟨sameBracket, sameRest⟩ := List.cons.inj same
          simp only at sameBracket
          rw [isBalanced_cons, isBalanced_cons, sameBracket]
          congr 1
          exact funext fun _ => inductionHypothesis sameRest

/-- Tokens whose brackets match among themselves. -/
def IsBalanced (tokens : List Token) : Prop :=
  ∀ unclosed rest, isBalanced unclosed (tokens ++ rest) = isBalanced unclosed rest

namespace IsBalanced

theorem nil : IsBalanced [] := fun _ _ => rfl

theorem append {left right : List Token} (leftBalanced : IsBalanced left)
    (rightBalanced : IsBalanced right) : IsBalanced (left ++ right) := by
  intro unclosed rest
  rw [List.append_assoc, leftBalanced, rightBalanced]

theorem single {token : Token} (plain : token.lexeme.bracket? = none) : IsBalanced [token] := by
  intro unclosed rest
  rw [List.singleton_append, isBalanced_cons, plain]
  rfl

theorem enclose {delimiter : Delimiter} {opening closing : Token} {inner : List Token}
    (opens : opening.lexeme = .opening delimiter) (closes : closing.lexeme = .closing delimiter)
    (balanced : IsBalanced inner) : IsBalanced (opening :: (inner ++ [closing])) := by
  intro unclosed rest
  rw [List.cons_append, List.append_assoc, isBalanced_cons, opens]
  simp only [Lexeme.bracket?, afterBracket?, Option.any_some]
  rw [balanced, List.singleton_append, isBalanced_cons, closes]
  simp [Lexeme.bracket?, afterBracket?]

theorem isBalanced {tokens : List Token} (balanced : IsBalanced tokens) : isBalanced [] tokens := by
  have whole := balanced [] []
  rwa [List.append_nil] at whole

end IsBalanced

/-- Inside open brackets the bracket that closes the outermost of them is found, and what stands in front
of it closes the inner ones. -/
theorem afterClosing_split {inner : List Delimiter} {outermost : Delimiter} {unclosed : List Delimiter}
    {tokens : List Token} (balanced : isBalanced (inner ++ outermost :: unclosed) tokens) :
    ∃ front closing, tokens = front ++ closing :: Ahead.afterClosing inner.length tokens ∧
      closing.lexeme = .closing outermost ∧ ∀ others rest,
        isBalanced (inner ++ outermost :: others) (front ++ rest) =
          isBalanced (outermost :: others) rest := by
  induction tokens generalizing inner with
  | nil => cases inner <;> cases balanced
  | cons token rest inductionHypothesis =>
      obtain ⟨lexeme, location⟩ := token
      rw [isBalanced_cons] at balanced
      cases lexeme with
      | opening delimiter =>
          obtain ⟨front, closing, split, closes, matching⟩ :=
            @inductionHypothesis (delimiter :: inner) balanced
          refine ⟨⟨.opening delimiter, location⟩ :: front, closing, ?_, closes, ?_⟩
          · exact congrArg (List.cons _) split
          · intro others following
            rw [List.cons_append, isBalanced_cons]
            exact matching others following
      | closing delimiter =>
          cases inner with
          | nil =>
              by_cases same : outermost = delimiter
              · exact ⟨[], ⟨.closing delimiter, location⟩, rfl, by rw [same], fun _ _ => rfl⟩
              · simp [Lexeme.bracket?, afterBracket?, same] at balanced
          | cons innermost outer =>
              by_cases same : innermost = delimiter
              · simp only [Lexeme.bracket?, afterBracket?, same, ↓reduceIte, Option.any_some,
                  List.cons_append] at balanced
                obtain ⟨front, closing, split, closes, matching⟩ := inductionHypothesis balanced
                refine ⟨⟨.closing delimiter, location⟩ :: front, closing, ?_, closes, ?_⟩
                · exact congrArg (List.cons _) split
                · intro others following
                  rw [List.cons_append, List.cons_append, isBalanced_cons]
                  simp only [Lexeme.bracket?, afterBracket?, same, ↓reduceIte, Option.any_some]
                  exact matching others following
              · simp [Lexeme.bracket?, afterBracket?, same] at balanced
      | _ =>
          obtain ⟨front, closing, split, closes, matching⟩ := inductionHypothesis balanced
          refine ⟨_ :: front, closing, congrArg (List.cons _) split, closes, ?_⟩
          intro others following
          rw [List.cons_append, isBalanced_cons]
          exact matching others following

end ObjectMapping.Source
