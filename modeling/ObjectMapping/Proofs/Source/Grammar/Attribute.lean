/-
This file proves that plain paths, names of fields, attributes and blocks are read and written as phrases.
-/

import ObjectMapping.Proofs.Source.Decimal
import ObjectMapping.Proofs.Source.Grammar.Basic
import ObjectMapping.Source.Grammar.Attribute
import ObjectMapping.Source.Grammar.FieldName

namespace ObjectMapping.Source

open Reader

theorem startsPlainSegment_startsWord {tokens : List Token} (comes : startsPlainSegment tokens) :
    StartsWord tokens :=
  (Bool.or_eq_true_iff.mp comes).elim isName_startsWord isPathWord_startsWord

theorem plainPath_reads : Reads plainPath :=
  have segment := wordWhere_moves fun _ => startsPlainSegment_startsWord
  (mark?_reads "::" rfl).bind fun _ _ => segment.yields.bind fun _ _ =>
    (((mark_reads "::" rfl).then segment.yields).many _).give

theorem macroArguments_reads : Reads macroArguments := brackets_reads.give

theorem fieldNumber?_isSpelt {digits : List Char} {text : String} (found : fieldNumber? digits = some text) :
    (Lexeme.literal text).IsSpelt := by
  unfold fieldNumber? at found
  split at found
  · cases found
    exact decimal_isSpelt _
  · cases found

/-- The token of a field that is counted. -/
theorem fieldNumber?_phrase {digits : List Char} {text : String} (found : fieldNumber? digits = some text)
    (location : Location) : IsPhrase [⟨.literal text, location⟩] :=
  .single (fieldNumber?_isSpelt found) rfl nofun

theorem isPlainLiteral_apart {tokens : List Token} (comes : Ahead.isPlainLiteral tokens) :
    StartsApart tokens := by
  rintro ⟨lexeme, location⟩ isHead
  obtain ⟨rest, rfl⟩ := List.head?_eq_some_iff.mp isHead
  cases lexeme with
  | literal text => exact ⟨rfl, nofun⟩
  | _ => cases comes

theorem fieldName_yields : Yields fieldName fun found => ∀ name ∈ found, (Lexeme.word name).IsSpelt := by
  refine .seesIf (name_yields.bind fun name spelt => .pure fun _ same => Option.some.inj same ▸ spelt)
    ((take_moves (fun _ => isPlainLiteral_apart) _).yields.bind ?_)
  intro token _
  cases found : fieldNumber? token.lexeme.text.toList with
  | some text => exact (write_reads (fieldNumber?_phrase found _)).then (.pure nofun)
  | none => exact .refuse _

section

variable {grammar : Grammar} (sound : grammar.IsSound)
include sound

theorem attributeValue_reads : Reads (attributeValue grammar) :=
  .seesIf (.refuse _) (sound.expression true).give

theorem attributeContent_reads : Reads (attributeContent grammar) := by
  have path : Reads attributePath := .seesIf anyWord_yields.give plainPath_reads
  refine .get fun _ => path.bind fun _ _ => .seesIf brackets_reads.give (.seesIf (.get fun _ => ?_) ?_)
  · exact (mark_reads "=" rfl).then ((attributeValue_reads sound).then (.pure trivial))
  · exact .pure trivial

theorem outerAttribute_reads : Reads (outerAttribute grammar) :=
  (mark_reads "#" rfl).then (within_yields _ (attributeContent_reads sound))

theorem innerAttribute_reads : Reads (innerAttribute grammar) :=
  (mark_reads "#" rfl).then ((mark_reads "!" rfl).then (within_yields _ (attributeContent_reads sound)))

theorem outerAttributes_reads : Reads (outerAttributes grammar) :=
  ((outerAttribute_reads sound).many _).mono fun _ _ => trivial

theorem innerAttributes_reads : Reads (innerAttributes grammar) :=
  ((innerAttribute_reads sound).many _).mono fun _ _ => trivial

theorem fieldAttributes_reads : Reads (fieldAttributes grammar) := by
  have single : Reads (fieldAttribute grammar) :=
    (outerAttribute_reads sound).withhold.bind fun _ found => .get fun _ =>
      .optional (write_reads found.1) (.pure trivial)
  exact (single.many _).mono fun _ _ => trivial

theorem plainBlock_moves :
    Moves (plainBlock grammar) fun found => ∀ statement ∈ found, statement.IsSound :=
  within_moves _ sound.statements

theorem bodyBlock_moves :
    Moves (bodyBlock grammar) fun found => ∀ statement ∈ found, statement.IsSound :=
  within_moves _ ((innerAttributes_reads sound).then sound.statements)

end

end ObjectMapping.Source
