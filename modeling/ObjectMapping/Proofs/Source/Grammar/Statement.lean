/-
This file proves that statements are read and written as phrases and hold sound expressions.
-/

import ObjectMapping.Proofs.Source.Grammar.Expression
import ObjectMapping.Source.Grammar.Statement

namespace ObjectMapping.Source

open Reader

variable {grammar : Grammar} (sound : grammar.IsSound)

/-- Looking ahead reads nothing. -/
theorem statementStart_reads : Reads (statementStart grammar) := by
  intro before after value _ _ ran
  obtain ⟨start, between, first, ran⟩ := Reader.bind_ok ran
  cases first
  obtain ⟨_, between, _, ran⟩ := Reader.bind_ok ran
  obtain ⟨_, between, _, ran⟩ := Reader.bind_ok ran
  obtain ⟨_, between, _, ran⟩ := Reader.bind_ok ran
  obtain ⟨_, between, _, ran⟩ := Reader.bind_ok ran
  cases ran
  exact ⟨.refl _, trivial⟩

include sound

theorem bracedMacro_yields : Yields (bracedMacro grammar) Statement.IsSound :=
  (outerAttributes_reads sound).then (plainPath_reads.then ((mark_reads "!" rfl).then
    (macroArguments_reads.then ((mark?_reads ";" rfl).then (.pure trivial)))))

theorem binding_yields : Yields (binding grammar) Statement.IsSound := by
  refine (outerAttributes_reads sound).then ((keyword_reads "let").then (sound.pattern.then
    ((mark?_reads ":" rfl).bind fun _ _ => .optional (sound.type true) ((mark?_reads "=" rfl).bind fun _ _ =>
      .ite ((sound.expression true).bind fun _ _ => .seesIf ((keyword_reads "else").then
        ((plainBlock_moves sound).yields.then ?_)) ?_) ?_))))
  all_goals exact (mark_reads ";" rfl).then (.pure trivial)

theorem expressionStatement_yields : Yields (expressionStatement grammar) Statement.IsSound := by
  refine sound.ending.bind fun value valueSound => (mark?_reads ";" rfl).bind fun _ _ => ?_
  split
  · exact .ite (.pure trivial) (.pure valueSound)
  · exact .pure valueSound

theorem statementForm_yields : Yields (statementForm grammar) Statement.IsSound := by
  refine statementStart_reads.bind fun start _ => ?_
  cases start with
  | item => exact sound.item.then (.pure trivial)
  | bracedMacro => exact bracedMacro_yields sound
  | binding => exact binding_yields sound
  | expression => exact expressionStatement_yields sound

theorem statement_yields : Yields (statement grammar) Statement.IsSound := by
  refine .seesIf ((mark_reads ";" rfl).capture.bind fun _ _ => .pure trivial)
    ((statementForm_yields sound).capture.bind fun found good => ?_)
  obtain ⟨tokens, form⟩ := found
  cases form with
  | expression _ value hasSemicolon => exact .pure good.2
  | other _ => exact .pure trivial

theorem statementsWithin_yields (budget : Nat) :
    Yields (statementsWithin grammar budget) fun found => ∀ statement ∈ found, statement.IsSound := by
  induction budget with
  | zero => exact .refuse _
  | succ budget inductionHypothesis =>
      exact .seesIf (.pure nofun) ((statement_yields sound).bind fun _ first => .seesIf
        (inductionHypothesis.bind fun _ others => .pure (List.forall_mem_cons.mpr ⟨first, others⟩))
        (.throw _))

theorem statements_yields :
    Yields (statements grammar) fun found => ∀ statement ∈ found, statement.IsSound :=
  budget_reads.bind fun budget _ => statementsWithin_yields sound budget

end ObjectMapping.Source
