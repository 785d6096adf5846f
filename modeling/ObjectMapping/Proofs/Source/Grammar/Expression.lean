/-
This file proves that operands are read and written as phrases, each with at least one token, and that
closures bind words.
-/

import ObjectMapping.Proofs.Source.Grammar.Operator
import ObjectMapping.Source.Grammar.Expression

namespace ObjectMapping.Source

open Reader

theorem blockForm_isSound {statements : List Statement}
    (sound : ∀ statement ∈ statements, statement.IsSound) : (blockForm statements).IsSound := by
  unfold blockForm
  split
  · exact .wrapped .nil (sound _ List.mem_cons_self)
  · exact .block .nil

theorem writeCountedFields_reads (location : Location) (parts : List (List Char)) :
    Reads (writeCountedFields location parts) := by
  have point : IsPhrase [⟨.mark '.' false, location⟩] :=
    .single (Lexeme.mark_isSpelt false (by decide) (by decide)) rfl nofun
  fun_induction writeCountedFields location parts with
  | case1 => exact .pure trivial
  | case2 => exact .pure trivial
  | case3 last _ text found => exact (write_reads (fieldNumber?_phrase found _)).then (.pure trivial)
  | case4 => exact .refuse _
  | case5 part rest _ text found inductionHypothesis =>
      exact (write_reads ((fieldNumber?_phrase found _).append point)).then inductionHypothesis
  | case6 => exact .refuse _

theorem isPointedNumber_apart {tokens : List Token} (comes : isPointedNumber tokens) :
    StartsApart tokens := by
  rintro ⟨lexeme, location⟩ isHead
  obtain ⟨rest, rfl⟩ := List.head?_eq_some_iff.mp isHead
  cases lexeme with
  | literal text => exact ⟨rfl, nofun⟩
  | _ => cases comes

theorem countedFields?_reads : Reads countedFields? :=
  .seesIf ((take_moves (fun _ => isPointedNumber_apart) _).yields.bind fun _ _ =>
    writeCountedFields_reads _ _) (.pure trivial)

theorem builtinCall_moves : Moves builtinCall Expression.IsSound := by
  refine .first (.verbatim (show Moves _ fun _ => True from ?_)) fun _ _ => .pure .unset
  exact (keyword_moves "builtin").first fun _ _ => (mark_reads "#" rfl).then (anyWord_yields.then
    (.seesIf brackets_reads.give (.refuse _)))

/-- What makes a sound expression of a phrase. -/
def MakesSound (whole : List Token → Expression) : Prop :=
  ∀ tokens, IsPhrase tokens → (whole tokens).IsSound

section

variable {grammar : Grammar} (sound : grammar.IsSound)
include sound

theorem arguments_yields :
    Yields (arguments grammar) fun found => ∀ argument ∈ found, argument.IsSound :=
  within_yields _ (sound.expression true).commaList

theorem afterPoint_yields {base : Expression} (baseSound : base.IsSound) :
    Yields (afterPoint grammar base) MakesSound := by
  have field {member : Option String} (named : ∀ name ∈ member, (Lexeme.word name).IsSpelt) :
      MakesSound fun tokens => .field tokens base member :=
    fun _ phrase => .field phrase baseSound named
  have other : MakesSound .other := fun _ => .other
  refine countedFields?_reads.branch (.pure (field nofun)) ((keyword?_reads "await").branch (.pure other) ?_)
  refine fieldName_yields.bind fun _ named => .seesIf ?_ (.seesIf ?_ (.pure (field named)))
  · exact (angledArguments_reads sound).then ((arguments_yields sound).then (.pure other))
  · exact (arguments_yields sound).then (.pure other)

theorem trailer?_yields {base : Expression} (baseSound : base.IsSound) :
    Yields (trailer? grammar base) fun found => ∀ whole ∈ found, MakesSound whole := by
  have single {whole : List Token → Expression} (makes : MakesSound whole) :
      ∀ other ∈ some whole, MakesSound other := fun _ same => Option.some.inj same ▸ makes
  have other : MakesSound .other := fun _ => .other
  refine .seesIf ((arguments_yields sound).bind fun _ valuesSound => .pure (single ?_)) (.seesIf ?_ ?_)
  · exact fun _ phrase => .call phrase baseSound valuesSound
  · exact (within_yields _ (sound.expression true).give).then (.pure (single other))
  · refine .ite (.pure nofun) (.seesIf ?_ ((mark?_reads "?" rfl).branch (.pure (single other)) (.pure nofun)))
    exact (mark_reads "." rfl).then ((afterPoint_yields sound baseSound).bind fun _ makes =>
      .pure (single makes))

theorem trailersWithin_yields (budget : Nat) {base : Expression} (baseSound : base.IsSound) :
    Yields (trailersWithin grammar budget base) Expression.IsSound := by
  induction budget generalizing base with
  | zero => exact .pure baseSound
  | succ budget inductionHypothesis =>
      refine (trailer?_yields sound baseSound).capture.bind fun found good => ?_
      obtain ⟨tokens, applied⟩ := found
      cases applied with
      | some whole => exact inductionHypothesis (good.2 whole rfl _ (baseSound.phrase.append good.1))
      | none => exact .pure baseSound

theorem trailers_yields {base : Expression} (baseSound : base.IsSound) :
    Yields (trailers grammar base) Expression.IsSound :=
  budget_reads.bind fun budget _ => trailersWithin_yields sound budget baseSound

theorem fieldValue_reads : Reads (fieldValue grammar) :=
  (outerAttributes_reads sound).then (fieldName_yields.bind fun _ _ =>
    .seesIf ((mark_reads ":" rfl).then (sound.expression true).give) (.pure trivial))

theorem fieldValues_reads (budget : Nat) : Reads (fieldValues grammar budget) := by
  induction budget with
  | zero => exact .refuse _
  | succ budget inductionHypothesis =>
      refine .seesIf ((mark?_reads ".." rfl).branch (.seesIf (sound.expression true).give (.pure trivial)) ?_)
        (.pure trivial)
      exact (fieldValue_reads sound).then (.seesIf ((mark_reads "," rfl).then inductionHypothesis)
        (.pure trivial))

theorem pathExpression_moves (allowsStruct : Bool) :
    Moves (pathExpression grammar allowsStruct) Expression.IsSound := by
  have values := budget_reads.bind fun budget _ => fieldValues_reads sound budget
  refine (path_moves sound true).first fun _ _ => .seesIf ((mark_reads "!" rfl).then
    (macroArguments_reads.bind fun _ _ => .pure (.macroCall .nil))) (.seesIf ?_ (.pure (.path .nil)))
  exact (within_yields _ values).then (.pure .unset)

theorem parenthesized_moves : Moves (parenthesized grammar) Expression.IsSound :=
  (within_moves _ (sound.expression true).commaList).first fun _ _ => .pure .unset

theorem arrayExpression_moves : Moves (arrayExpression grammar) Expression.IsSound := by
  refine within_moves _ (.seesIf (.pure (.array .nil nofun)) ((sound.expression true).bind fun _ first => ?_))
  refine (mark?_reads ";" rfl).branch ((sound.expression true).then (.pure .unset)) (.seesIf ?_ ?_)
  · exact .pure (.array .nil (List.forall_mem_singleton.mpr first))
  · exact (mark?_reads "," rfl).branch ((sound.expression true).commaList.bind fun _ others =>
      .pure (.array .nil (List.forall_mem_cons.mpr ⟨first, others⟩))) (.refuse _)

theorem closureParameter_yields : Yields (closureParameter grammar) Pattern.IsSound := by
  refine .bind (.capture (show Yields _ Pattern.IsSound from ?_)) fun found good =>
    .pure (good.2.withTokens found.1)
  exact (outerAttributes_reads sound).then (sound.pattern.bind fun _ inner =>
    (mark?_reads ":" rfl).branch ((sound.type true).then (.pure inner)) (.pure inner))

theorem closure_moves (allowsStruct : Bool) : Moves (closure grammar allowsStruct) Expression.IsSound := by
  have params := (closureParameter_yields sound).separated (Ahead.isMark "|") "," rfl
  refine (boundParameters_reads sound).second fun _ _ => (keyword?_reads "const").second fun _ _ =>
    (keyword?_reads "static").second fun _ _ => (keyword?_reads "async").second fun _ _ =>
    (keyword?_reads "move").second fun _ _ => (mark_moves "|" rfl).first fun _ _ =>
    params.bind fun _ paramsSound => (mark_reads "|" rfl).then (.seesIf ?_ ?_)
  · exact (mark_reads "->" rfl).then ((sound.type true).then ((plainBlock_moves sound).yields.capture.bind
      fun _ good => .pure (.closure .nil paramsSound ((blockForm_isSound good.2).withTokens good.1))))
  · exact (sound.expression allowsStruct).bind fun _ body => .pure (.closure .nil paramsSound body)

theorem letExpression_moves (allowsStruct : Bool) :
    Moves (letExpression grammar allowsStruct) Expression.IsSound :=
  (keyword_moves "let").first fun _ _ => (alternatives_yields sound).then ((mark_reads "=" rfl).then
    ((sound.operand allowsStruct).yields.bind fun _ left =>
      (sound.operation allowsStruct .compare left).then (.pure .unset)))

theorem conditionalWithin_moves (budget : Nat) :
    Moves (conditionalWithin grammar budget) fun _ => True := by
  induction budget with
  | zero => exact .refuse _
  | succ budget inductionHypothesis =>
      have block := (plainBlock_moves sound).yields
      exact (keyword_moves "if").first fun _ _ => (sound.expression false).then (block.then
        ((keyword?_reads "else").branch (.seesIf inductionHypothesis.yields block.give) (.pure trivial)))

theorem conditional_moves : Moves (conditional grammar) Expression.IsSound :=
  budget_reads.second fun budget _ => (conditionalWithin_moves sound budget).first fun _ _ =>
    .pure (.statementLike .nil)

theorem loopExpression_moves : Moves (loopExpression grammar) Expression.IsSound := by
  have condition := sound.expression false
  have ended : Yields (pure (.statementLike [])) Expression.IsSound := .pure (.statementLike .nil)
  have block := (bodyBlock_moves sound).yields.then ended
  refine (keyword?_moves "while").branch (condition.then block) ((keyword?_moves "for").branch ?_ ?_)
  · exact (alternatives_yields sound).then ((keyword_reads "in").then (condition.then block))
  · exact (keyword_moves "loop").first fun _ _ => block

theorem labelled_moves : Moves (labelled grammar) Expression.IsSound :=
  lifetime_moves.first fun _ _ => (mark_reads ":" rfl).then (.seesIf
    ((bodyBlock_moves sound).yields.then (.pure (.block .nil))) (loopExpression_moves sound).yields)

theorem breakExpression_moves (allowsStruct : Bool) :
    Moves (breakExpression grammar allowsStruct) Expression.IsSound :=
  (keyword_moves "break").first fun _ _ => .seesIf (.refuse _) (lifetime?_reads.then
    ((sees_reads _).bind fun _ _ => .optional (sound.expression allowsStruct) (.pure .unset)))

theorem handingOut_moves (text : String) (allowsStruct : Bool) :
    Moves (handingOut grammar text allowsStruct) Expression.IsSound :=
  (keyword_moves text).first fun _ _ => (sees_reads _).bind fun _ _ =>
    .optional (sound.expression allowsStruct) (.pure .unset)

theorem matchArms_reads (budget : Nat) : Reads (matchArms grammar budget) := by
  induction budget with
  | zero => exact .refuse _
  | succ budget inductionHypothesis =>
      refine .seesIf ((outerAttributes_reads sound).then ((alternatives_yields sound).then
        ((keyword?_reads "if").bind fun _ _ => .optional (sound.expression true) ?_))) (.pure trivial)
      exact (mark_reads "=>" rfl).then (sound.ending.bind fun _ _ =>
        .seesIf ((mark?_reads "," rfl).then inductionHypothesis) ((mark_reads "," rfl).then inductionHypothesis))

theorem matchExpression_moves : Moves (matchExpression grammar) Expression.IsSound := by
  have arms := (innerAttributes_reads sound).then (budget_reads.bind fun budget _ =>
    matchArms_reads sound budget)
  exact (keyword_moves "match").first fun _ _ => (sound.expression false).then
    ((within_yields _ arms).then (.pure (.statementLike .nil)))

theorem governedBlock_moves (text : String) : Moves (governedBlock grammar text) Expression.IsSound :=
  (keyword_moves text).first fun _ _ => (bodyBlock_moves sound).yields.then (.pure (.statementLike .nil))

/-- An expression that is complete by itself has a token if there is one. -/
theorem complete?_moves : MovesTo (fun found => found.isSome) (complete? grammar) fun found =>
    ∀ expression ∈ found, expression.IsSound := by
  have single {reader : Reader Expression} (moves : Moves reader Expression.IsSound) :
      MovesTo (fun found => found.isSome) (do return some (← reader)) fun found =>
        ∀ expression ∈ found, expression.IsSound :=
    moves.first fun _ good => .pure fun _ same => Option.some.inj same ▸ good
  refine .seesIf (single (conditional_moves sound)) (.seesIf (single (loopExpression_moves sound)) ?_)
  refine .seesIf (single (matchExpression_moves sound)) (.seesIf (single (governedBlock_moves sound _)) ?_)
  refine .seesIf (single (governedBlock_moves sound _)) (.seesIf (single (governedBlock_moves sound _)) ?_)
  refine .seesIf ?_ (.seesIf (single (labelled_moves sound)) (.pure nofun nofun))
  exact (bodyBlock_moves sound).first fun _ good => .pure fun _ same =>
    Option.some.inj same ▸ blockForm_isSound good

theorem ending_yields : Yields (ending grammar) Expression.IsSound := by
  refine .bind (.capture (show Yields _ Expression.IsSound from ?_)) fun found good => ?_
  · refine (outerAttributes_reads sound).then ((complete?_moves sound).yields.bind fun found good => ?_)
    cases found with
    | some expression => exact .pure (good expression rfl)
    | none => exact (sound.operand true).yields
  · have whole := good.2.withTokens good.1
    refine .ite (sound.operation true .lowest whole) (.seesIf ?_ (.pure whole))
    exact (trailers_yields sound whole).bind fun _ applied => sound.operation true .lowest applied

theorem asyncBlock_moves : Moves (asyncBlock grammar) Expression.IsSound :=
  (keyword_moves "async").first fun _ _ => (keyword?_reads "move").then
    ((plainBlock_moves sound).yields.then (.pure .unset))

theorem atomForm_moves (allowsStruct : Bool) : Moves (atomForm grammar allowsStruct) Expression.IsSound := by
  refine .seesIf (literal_moves.first fun _ _ => .pure .unset) (.seesIf (asyncBlock_moves sound) ?_)
  refine .seesIf (closure_moves sound allowsStruct) (.seesIf builtinCall_moves ?_)
  refine .seesIf (pathExpression_moves sound allowsStruct) (.seesIf (parenthesized_moves sound) ?_)
  refine .seesIf (arrayExpression_moves sound) (.seesIf (breakExpression_moves sound allowsStruct) ?_)
  refine (keyword?_moves "continue").branch (lifetime?_reads.then (.pure .unset)) (.seesIf ?_ ?_)
  · exact handingOut_moves sound "return" allowsStruct
  refine .seesIf (handingOut_moves sound "yield" allowsStruct) (.seesIf ?_ ?_)
  · refine .first (.verbatim (show Moves _ fun _ => True from ?_)) fun _ _ => .pure .unset
    exact (keyword_moves "become").first fun _ _ => (sound.expression true).give
  refine .seesIf (letExpression_moves sound allowsStruct) (.seesIf ?_ ?_)
  · exact (rangeOperation_moves sound allowsStruct).first fun _ _ => .pure (.range .nil)
  refine (keyword?_moves "_").branch (.pure .unset) ((complete?_moves sound).bind ?_ ?_)
  · rintro (_ | found) reached good
    · cases reached
    · exact .pure (good found rfl)
  · rintro (_ | found) unreached _
    · exact .refuse _
    · exact absurd rfl unreached

theorem applied_moves (allowsStruct : Bool) : Moves (applied grammar allowsStruct) Expression.IsSound :=
  (atomForm_moves sound allowsStruct).capture.first fun _ good =>
    trailers_yields sound (good.2.withTokens good.1)

theorem borrowed_moves (allowsStruct : Bool) : Moves (borrowed grammar allowsStruct) Expression.IsSound :=
  (mark_moves "&" rfl).first fun _ _ => (sees_reads _).bind fun _ _ => .optional (keyword_reads "raw")
    ((keyword?_reads "mut").bind fun _ _ => .optional (keyword_reads "const")
      ((sound.operand allowsStruct).yields.then (.pure .unset)))

theorem operandForm_moves (allowsStruct : Bool) :
    Moves (operandForm grammar allowsStruct) Expression.IsSound := by
  refine (outerAttributes_reads sound).second fun _ _ => .seesIf (borrowed_moves sound allowsStruct)
    (get_reads.second fun feed _ => ?_)
  have apart : ∀ sign ∈ signs, endsApart sign := by decide
  dsimp only
  split
  · rename_i sign found
    exact (mark_moves sign (apart sign (List.mem_of_find?_eq_some found))).first fun _ _ =>
      (sound.operand allowsStruct).yields.then (.pure .unset)
  · exact applied_moves sound allowsStruct

theorem operand_moves (allowsStruct : Bool) : Moves (operand grammar allowsStruct) Expression.IsSound :=
  (operandForm_moves sound allowsStruct).capture.first fun _ good => .pure (good.2.withTokens good.1)

end

end ObjectMapping.Source
