/-
This file proves that visibilities and the heads of functions are read and written as phrases.
-/

import ObjectMapping.Proofs.Source.Grammar.Pattern
import ObjectMapping.Proofs.Source.Grammar.Type
import ObjectMapping.Source.Grammar.Signature

namespace ObjectMapping.Source

open Reader

theorem visibility_reads : Reads visibility := by
  refine (keyword?_reads "pub").branch (.get fun _ => .ite (.pure trivial) (.ite ?_ (.ite ?_ ?_)))
    (.pure trivial)
  · exact (within_yields _ anyWord_yields.give).then (.pure trivial)
  · exact (within_yields _ ((keyword_reads "in").then plainPath_reads.give)).then (.pure trivial)
  · exact .pure trivial

theorem functionQualifiers_reads (allowsSafe : Bool) : Reads (functionQualifiers allowsSafe) := by
  refine (keyword?_reads "const").then ((keyword?_reads "async").then
    ((keyword?_reads "unsafe").bind fun _ _ => .ite ((pure_reads _).bind ?rest)
      (.ite ((keyword?_reads "safe").bind ?rest) ((pure_reads _).bind ?rest))))
  exact fun _ _ => interface?_reads.then (.pure trivial)

/-- The blank pattern that an argument of an old form gets is a phrase. -/
theorem blank_phrase (location : Location) : IsPhrase [⟨.word "_", location⟩] := by
  have spelt : (Lexeme.word "_").IsSpelt := rfl
  exact .single spelt rfl nofun

section

variable {grammar : Grammar} (sound : grammar.IsSound)
include sound

theorem receiver_reads : Reads (receiver grammar) := by
  refine (mark?_reads "&" rfl).bind fun _ _ => .optional lifetime?_reads ((keyword?_reads "mut").bind fun _ _ =>
    (keyword_reads "self").then (.ite ((mark?_reads ":" rfl).bind fun _ _ => ?_) (.pure trivial)))
  exact .optional (sound.type true) (.pure trivial)

theorem functionInput?_yields : Yields (functionInput? grammar) fun found => ∀ input ∈ found, input.IsSound := by
  have typed {pattern : Pattern} (isSound : pattern.IsSound) (type : WrittenType) :
      ∀ input ∈ some (FunctionInput.typed [] pattern type), input.IsSound :=
    fun _ same => Option.some.inj same ▸ isSound
  refine (mark?_reads "..." rfl).branch (.pure nofun) ((receiver_reads sound).attempt.bind fun found _ => ?_)
  cases found with
  | some form => exact .pure fun _ same => Option.some.inj same ▸ trivial
  | none =>
      refine .seesIf (.get fun feed => .then (write_reads ?_) ((sound.type true).bind fun _ _ =>
        .pure (typed (show Pattern.IsSound (.wild _) from trivial) _)))
        (sound.pattern.bind fun _ isSound => (mark_reads ":" rfl).then
          ((mark?_reads "..." rfl).branch (.pure nofun) ((sound.type true).bind fun _ _ => .pure (typed isSound _))))
      exact (blank_phrase _).append (glued_phrase ":" _ rfl)

theorem functionInputs_yields (isFirst : Bool) (budget : Nat) :
    Yields (functionInputs grammar isFirst budget) fun found => ∀ input ∈ found, input.IsSound := by
  induction budget generalizing isFirst with
  | zero => exact .refuse _
  | succ budget inductionHypothesis =>
      have input := (outerAttributes_reads sound).then (functionInput?_yields sound)
      refine .seesIf (.pure nofun) (input.capture.bind fun found good => ?_)
      obtain ⟨tokens, form⟩ := found
      cases form with
      | none => exact (sees_reads _).bind fun _ _ => .optional (mark_reads "," rfl) (.pure nofun)
      | some input =>
          have isSound := good.2 input rfl
          refine .ite (.refuse _) (.seesIf (.pure ?_) ((mark_reads "," rfl).then
            ((inductionHypothesis false).bind fun _ others => .pure ?_)))
          · cases input <;> exact List.forall_mem_singleton.mpr isSound
          · cases input <;> exact List.forall_mem_cons.mpr ⟨isSound, others⟩

theorem markedSignature_yields (allowsSafe : Bool) :
    Yields (markedSignature grammar allowsSafe) fun found => found.2.IsNamed := by
  have inputs := budget_reads.bind fun budget _ => functionInputs_yields sound true budget
  refine .bind (.capture (show Yields _ fun found : Bool × Signature => found.2.IsNamed from ?_)) fun found good =>
    .pure ⟨good.2.name, good.2.inputs⟩
  refine (functionQualifiers_reads allowsSafe).capture.bind fun _ _ => (keyword_reads "fn").then
    ((passName_moves _).yields.bind fun _ isName =>
    (generics_reads sound).capture.bind fun _ _ => (within_yields _ inputs).capture.bind fun _ areSound =>
    (result?_reads sound true).capture.bind fun _ _ => (whereClause_reads sound).capture.bind fun _ _ =>
    .pure ⟨isName, areSound.2⟩)

theorem signature_yields : Yields (signature grammar) Signature.IsNamed :=
  (markedSignature_yields sound false).bind fun _ good => .pure good

end

end ObjectMapping.Source
