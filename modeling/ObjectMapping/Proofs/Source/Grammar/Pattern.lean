/-
This file proves that patterns are read and written as phrases and bind words.
-/

import ObjectMapping.Proofs.Source.Grammar.Generics
import ObjectMapping.Source.Grammar.Pattern

namespace ObjectMapping.Source

open Reader

theorem rangeSign_reads : Reads rangeSign :=
  (mark?_reads "..=" rfl).branch (.pure trivial) (.seesIf ((dropMark_yields "..." rfl).bind fun location _ =>
    (write_reads (glued_phrase "..=" location rfl)).then (.pure trivial)) (mark_reads ".." rfl).give)

section

variable {grammar : Grammar} (sound : grammar.IsSound)
include sound

theorem alternatives_yields : Yields (alternatives grammar) Pattern.IsSound := by
  have patterns := sound.pattern.joinedWithin (mark_reads "|" rfl) startsAlternative fun _ => true
  refine .bind (.capture (show Yields _ fun found : Bool × List Pattern =>
    ∀ inner ∈ found.2, inner.IsSound from ?_)) ?_
  · exact (mark?_reads "|" rfl).bind fun _ _ => budget_reads.bind fun _ _ => (patterns _).bind fun _ all =>
      .pure all
  · rintro ⟨tokens, isLed, found⟩ ⟨_, all⟩
    dsimp only
    split
    · exact .pure (all _ List.mem_cons_self)
    · exact .pure trivial

theorem rangeBound_reads : Reads (rangeBound grammar) :=
  .seesIf literal_reads.give (.seesIf ((keyword_reads "const").then (bodyBlock_moves sound).yields.give)
    (path_moves sound true).yields.give)

theorem rangeTail_yields : Yields (rangeTail grammar) Pattern.IsSound :=
  rangeSign_reads.bind fun _ _ => .seesIf (.ite (.refuse _) (.pure trivial))
    ((rangeBound_reads sound).then (.pure trivial))

theorem literalPattern_yields : Yields (literalPattern grammar) Pattern.IsSound :=
  (rangeBound_reads sound).then (.seesIf (rangeTail_yields sound) (.pure trivial))

theorem leadingRange_yields : Yields (leadingRange grammar) Pattern.IsSound :=
  (mark?_reads "..=" rfl).bind fun _ _ => .optional (mark_reads ".." rfl)
    (.seesIf (.ite (.refuse _) (.pure trivial)) ((rangeBound_reads sound).then (.pure trivial)))

theorem namePattern_yields : Yields (namePattern grammar) Pattern.IsSound :=
  (keyword?_reads "ref").then ((keyword?_reads "mut").then ((nameOr_yields "self").bind fun _ isWord =>
    (mark?_reads "@" rfl).bind fun _ _ => .optional sound.pattern (.pure isWord)))

theorem patternField_reads : Reads (patternField grammar) := by
  refine .seesIf (.verbatim ((keyword_reads "box").then ((keyword?_reads "ref").then
    ((keyword?_reads "mut").then name_yields.give)))) ((keyword?_reads "ref").bind fun _ _ => ?_)
  refine (keyword?_reads "mut").bind fun _ _ => .ite name_yields.give (fieldName_yields.bind fun _ _ => ?_)
  exact .seesIf ((mark_reads ":" rfl).then (alternatives_yields sound).give) (.pure trivial)

theorem patternFields_reads (budget : Nat) : Reads (patternFields grammar budget) := by
  induction budget with
  | zero => exact .refuse _
  | succ budget inductionHypothesis =>
      refine .seesIf ((outerAttributes_reads sound).then ((mark?_reads ".." rfl).bind fun _ _ => ?_))
        (.pure trivial)
      exact .ite ((patternField_reads sound).then (.seesIf ((mark_reads "," rfl).then inductionHypothesis)
        (.pure trivial))) (.pure trivial)

theorem pathPattern_yields : Yields (pathPattern grammar) Pattern.IsSound := by
  have fields := budget_reads.bind fun budget _ => patternFields_reads sound budget
  have elements := (alternatives_yields sound).commaList
  refine (path_moves sound true).yields.bind fun _ _ => .seesIf ((mark_reads "!" rfl).then
    (macroArguments_reads.then (.pure trivial))) (.seesIf ((within_yields _ fields).then (.pure trivial)) ?_)
  exact .seesIf ((within_yields _ elements.give).then (.pure trivial))
    (.seesIf (rangeTail_yields sound) (.pure trivial))

theorem slicePattern_yields : Yields (slicePattern grammar) Pattern.IsSound := by
  refine within_yields _ (.then (.commaList (show Reads _ from ?_)) (.pure trivial))
  refine (alternatives_yields sound).bind fun found _ => ?_
  split
  · exact .refuse _
  · exact .pure trivial

theorem patternForm_yields : Yields (patternForm grammar) Pattern.IsSound := by
  have elements := (alternatives_yields sound).commaList
  refine .seesIf (pathPattern_yields sound) (.seesIf ((keyword_reads "_").then (.pure trivial)) ?_)
  refine .seesIf (.then (.verbatim ((keyword_reads "box").then sound.pattern.give)) (.pure trivial)) ?_
  refine .seesIf (literalPattern_yields sound) (.seesIf (namePattern_yields sound) (.seesIf ?_ ?_))
  · exact (mark_reads "&" rfl).then ((keyword?_reads "mut").then (sound.pattern.bind fun _ inner =>
      .pure inner))
  · exact .seesIf ((within_yields _ elements.give).then (.pure trivial))
      (.seesIf (slicePattern_yields sound) (.seesIf (leadingRange_yields sound) (.refuse _)))

theorem pattern_yields : Yields (pattern grammar) Pattern.IsSound :=
  (patternForm_yields sound).capture.bind fun found good => .pure (good.2.withTokens found.1)

end

end ObjectMapping.Source
