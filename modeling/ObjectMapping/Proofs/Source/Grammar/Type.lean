/-
This file proves that types are read and written as phrases.
-/

import ObjectMapping.Proofs.Source.Grammar.Generics
import ObjectMapping.Source.Grammar.Type

namespace ObjectMapping.Source

open Reader

theorem functionTypeVariadic_reads : Reads functionTypeVariadic :=
  .seesIf (anyWord_yields.then ((mark_reads ":" rfl).then ((mark_reads "..." rfl).then (mark?_reads "," rfl).give)))
    ((mark_reads "..." rfl).then (mark?_reads "," rfl).give)

section

variable {grammar : Grammar} (sound : grammar.IsSound)
include sound

theorem objectBounds_reads (allowsSum : Bool) : Reads (objectBounds grammar allowsSum) :=
  (typeBounds_reads sound allowsSum false false).bind fun _ _ => .ite (.refuse _) (.pure trivial)

theorem furtherBounds_reads : Reads (furtherBounds grammar) :=
  (((mark_reads "+" rfl).then (sound.bound false false)).many _).give

theorem enclosed_reads : Reads (enclosed grammar) := by
  refine .seesIf (.pure trivial) (.seesIf (objectBounds_reads sound true).capture.give (.seesIf ?_ ?_))
  · exact (traitBound_reads sound false).then (.pure trivial)
  · exact (sound.type true).bind fun _ _ =>
      (mark?_reads "," rfl).branch ((sound.type true).commaList.then (.pure trivial)) (.pure trivial)

theorem parenthesizedType_reads (allowsSum : Bool) : Reads (parenthesizedType grammar allowsSum) := by
  refine (within_yields _ (enclosed_reads sound)).bind fun held _ => ?_
  cases held with
  | tuple => exact .pure trivial
  | maybeBound => exact (furtherBounds_reads sound).then (.pure trivial)
  | single inner => exact .seesIf ((furtherBounds_reads sound).then (.pure trivial)) (.pure trivial)

theorem functionTypeArgument_reads (allowsSelf : Bool) : Reads (functionTypeArgument grammar allowsSelf) := by
  refine .seesIf (.verbatim ((keyword_reads "mut").then ((keyword_reads "self").then
    ((mark?_reads ":" rfl).branch (sound.type true).give (.pure trivial))))) (.seesIf ?_ ?_)
  · exact anyWord_yields.then ((mark_reads ":" rfl).then (sound.type true).give)
  · exact (sound.type true).give

theorem functionTypeArguments_reads (isFirst : Bool) (budget : Nat) :
    Reads (functionTypeArguments grammar isFirst budget) := by
  induction budget generalizing isFirst with
  | zero => exact .refuse _
  | succ budget inductionHypothesis =>
      refine .seesIf ((outerAttributes_reads sound).then (.seesIf functionTypeVariadic_reads ?_))
        (.pure trivial)
      exact (functionTypeArgument_reads sound isFirst).then
        (.seesIf ((mark_reads "," rfl).then (inductionHypothesis false)) (.pure trivial))

theorem functionType_reads : Reads (functionType grammar) := by
  have arguments := budget_reads.bind fun budget _ => functionTypeArguments_reads sound true budget
  exact (keyword?_reads "unsafe").then (interface?_reads.then ((keyword_reads "fn").then
    ((within_yields _ arguments).then (result?_reads sound false).give)))

theorem pathType_reads (allowsSum isBinding : Bool) : Reads (pathType grammar allowsSum isBinding) := by
  refine (path_moves sound false).yields.bind fun _ _ => .ite (.pure trivial) (.seesIf ?_ (.seesIf ?_ ?_))
  · exact (mark_reads "!" rfl).then (macroArguments_reads.then (.pure trivial))
  · exact (mark_reads "+" rfl).then ((sees_reads _).bind fun _ _ =>
      .optional (typeBounds_reads sound true false false) (.pure trivial))
  · exact .ite (.pure trivial) (.pure trivial)

theorem dynamicType_reads (allowsSum : Bool) : Reads (dynamicType grammar allowsSum) := by
  have bounds := objectBounds_reads sound allowsSum
  have dereferenced := (keyword_reads "dyn").then ((mark_reads "*" rfl).then bounds)
  exact .seesIf (dereferenced.verbatim.then (.pure trivial))
    ((keyword_reads "dyn").then (bounds.then (.pure trivial)))

theorem opaqueType_reads (allowsSum : Bool) : Reads (opaqueType grammar allowsSum) :=
  (keyword_reads "impl").then ((typeBounds_reads sound allowsSum true true).bind fun _ _ =>
    .ite (.pure trivial) (.refuse _))

theorem bracketType_reads : Reads (bracketType grammar) :=
  within_yields _ ((sound.type true).bind fun _ _ =>
    (mark?_reads ";" rfl).branch ((sound.expression true).then (.pure trivial)) (.pure trivial))

theorem pointerType_reads : Reads (pointerType grammar) :=
  (mark_reads "*" rfl).then ((keyword?_reads "const").bind fun _ _ => .optional (keyword_reads "mut")
    ((sound.type false).then (.pure trivial)))

theorem referenceType_reads : Reads (referenceType grammar) :=
  (mark_reads "&" rfl).then (lifetime?_reads.then ((keyword?_reads "mut").bind fun _ _ =>
    (sound.type false).give))

theorem typeForm_reads (allowsSum : Bool) : Reads (typeForm grammar allowsSum) := by
  refine .seesIf ((boundParameters_reads sound).then (.seesIf (functionType_reads sound)
    (.seesIf (pathType_reads sound allowsSum true) (.refuse _)))) ?_
  refine .seesIf (parenthesizedType_reads sound allowsSum) (.seesIf (functionType_reads sound) ?_)
  refine .seesIf (pathType_reads sound allowsSum false) (.seesIf (dynamicType_reads sound allowsSum) ?_)
  refine .seesIf (bracketType_reads sound) (.seesIf (pointerType_reads sound) ?_)
  refine .seesIf (referenceType_reads sound) (.seesIf ((mark_reads "!" rfl).then (.pure trivial)) ?_)
  refine .seesIf (opaqueType_reads sound allowsSum) (.seesIf ((keyword_reads "_").then (.pure trivial)) ?_)
  exact .seesIf ((objectBounds_reads sound true).then (.pure trivial)) (.refuse _)

theorem type_reads (allowsSum : Bool) : Reads (type grammar allowsSum) :=
  (typeForm_reads sound allowsSum).capture.give

end

end ObjectMapping.Source
