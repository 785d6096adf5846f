/-
This file proves that operations are read and written as phrases. A slash can be one operator of many
because an operand follows it.
-/

import ObjectMapping.Proofs.Source.Grammar.Pattern
import ObjectMapping.Source.Grammar.Operator

namespace ObjectMapping.Source

open Reader

variable {grammar : Grammar} (sound : grammar.IsSound)
include sound

theorem extendOperand_yields (allowsStruct : Bool) (precedence : Precedence) (budget : Nat)
    {operand : Expression} (operandSound : operand.IsSound) :
    Yields (extendOperand grammar allowsStruct precedence budget operand) Expression.IsSound := by
  induction budget generalizing operand with
  | zero => exact .pure operandSound
  | succ budget inductionHypothesis =>
      refine .get fun _ => .ite ?_ (.pure operandSound)
      exact (sound.operation allowsStruct _ operandSound).bind fun _ extended => .get fun _ =>
        .ite (.pure extended) (inductionHypothesis extended)

theorem rightOperand_moves (allowsStruct : Bool) (precedence : Precedence) :
    Moves (rightOperand grammar allowsStruct precedence) fun _ => True :=
  (sound.operand allowsStruct).first fun _ first => budget_reads.bind fun budget _ =>
    (extendOperand_yields sound allowsStruct precedence budget first).give

theorem rangeOperation_moves (allowsStruct : Bool) :
    Moves (rangeOperation grammar allowsStruct) fun _ => True := by
  have upper := (rightOperand_moves sound allowsStruct .range).yields
  refine (mark?_moves "..=" rfl).branch upper (.seesIf (.refuse _) ?_)
  exact (mark_moves ".." rfl).first fun _ _ => .seesIf upper (.pure trivial)

theorem castOperation_reads : Reads (castOperation grammar) :=
  (keyword_reads "as").then ((sound.type false).then (.seesIf (.refuse _) (.pure trivial)))

theorem operationWithin_yields (allowsStruct : Bool) (base : Precedence) (budget : Nat)
    {left : Expression} (leftSound : left.IsSound) :
    Yields (operationWithin grammar allowsStruct base budget left) Expression.IsSound := by
  induction budget generalizing left with
  | zero => exact .pure leftSound
  | succ budget inductionHypothesis =>
      refine .get fun feed => .ite (.pure leftSound) ?_
      have operation (operator : String) (precedence : Precedence) :=
        (mark_then operator (rightOperand_moves sound allowsStruct precedence)).capture
      cases binaryOperator? feed.rest with
      | some found =>
          refine .ite (.pure leftSound) (.ite (.refuse _) ((operation _ _).bind fun _ behind => ?_))
          have whole := leftSound.phrase.append behind.1
          refine inductionHypothesis ?_
          split
          · exact .comparison whole
          · exact .other whole
      | none =>
          refine .ite ((operation "=" .assign).bind fun _ behind =>
            inductionHypothesis (.other (leftSound.phrase.append behind.1))) ?_
          refine .ite ((rangeOperation_moves sound allowsStruct).yields.capture.bind fun _ behind =>
            inductionHypothesis (.range (leftSound.phrase.append behind.1))) ?_
          exact .ite ((castOperation_reads sound).capture.bind fun _ behind =>
            inductionHypothesis (.other (leftSound.phrase.append behind.1))) (.pure leftSound)

theorem operation_yields (allowsStruct : Bool) (base : Precedence) {left : Expression}
    (leftSound : left.IsSound) :
    Yields (operation grammar allowsStruct base left) Expression.IsSound :=
  budget_reads.bind fun budget _ => operationWithin_yields sound allowsStruct base budget leftSound

theorem expression_yields (allowsStruct : Bool) :
    Yields (expression grammar allowsStruct) Expression.IsSound :=
  (sound.operand allowsStruct).yields.bind fun _ left => operation_yields sound allowsStruct _ left

end ObjectMapping.Source
