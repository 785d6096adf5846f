/-
This file proves that paths are read and written as phrases, also where the arguments of a path change
their order.
-/

import ObjectMapping.Proofs.Source.Grammar.Attribute
import ObjectMapping.Source.Grammar.Path

namespace ObjectMapping.Source

open Reader

namespace AngledPiece

theorem comma_phrase (location : Location) : IsPhrase [comma location] :=
  .single (Lexeme.mark_isSpelt false (by decide) (by decide)) rfl nofun

theorem joinedTokens_phrase {pieces : List AngledPiece} (phrases : ∀ piece ∈ pieces, IsPhrase piece.tokens) :
    IsPhrase (joinedTokens pieces) := by
  fun_induction joinedTokens pieces with
  | case1 => exact .nil
  | case2 last =>
      refine (phrases last List.mem_cons_self).append ?_
      split
      · exact comma_phrase _
      · exact .nil
  | case3 piece next rest inductionHypothesis =>
      obtain ⟨phrase, others⟩ := List.forall_mem_cons.mp phrases
      exact phrase.append ((comma_phrase _).append (inductionHypothesis others))

theorem arranged_phrase {pieces : List AngledPiece} (phrases : ∀ piece ∈ pieces, IsPhrase piece.tokens) :
    IsPhrase (arranged pieces) := by
  refine joinedTokens_phrase fun piece member => phrases piece ?_
  obtain member | member := List.mem_append.mp member <;> exact List.mem_of_mem_filter member

end AngledPiece

theorem angledWithin_yields {α : Type} {item : Reader (Bool × α)} (reads : Reads item) (budget : Nat) :
    Yields (angledWithin item budget) fun found => ∀ piece ∈ found, IsPhrase piece.1.tokens := by
  induction budget with
  | zero => exact .refuse _
  | succ budget inductionHypothesis =>
      refine .seesIf (.pure nofun) (reads.withhold.bind fun piece found => ?_)
      exact .seesIf (.pure (List.forall_mem_singleton.mpr found.1))
        ((dropMark_yields "," rfl).bind fun _ _ => inductionHypothesis.bind fun _ others =>
          .pure (List.forall_mem_cons.mpr ⟨found.1, others⟩))

theorem angled_reads {α : Type} {item : Reader (Bool × α)} (keepsEmpty : Bool) (reads : Reads item) :
    Reads (angled keepsEmpty item) := by
  refine (dropMark_yields "<" rfl).bind fun opening opens => budget_reads.bind fun _ _ =>
    (angledWithin_yields reads _).bind fun pieces phrases => (dropMark_yields ">" rfl).bind
      fun closing closes => .optional (write_reads ?_) (.pure trivial)
  refine (opens.append (AngledPiece.arranged_phrase ?_)).append closes
  intro piece member
  obtain ⟨found, isPiece, rfl⟩ := List.mem_map.mp member
  exact phrases found isPiece

section

variable {grammar : Grammar} (sound : grammar.IsSound)
include sound

theorem constArgument_reads : Reads (constArgument grammar) :=
  .seesIf literal_reads.give (.seesIf name_yields.give (bodyBlock_moves sound).yields.give)

theorem genericArgument_reads : Reads (genericArgument grammar) := by
  have argument := constArgument_reads sound
  have bounds := (sound.bound false true).joined (fun tokens => !isBoundsEnd tokens) "+" rfl
  refine .seesIf lifetime_reads.give (.seesIf argument.give ((sound.type true).bind fun _ _ => ?_))
  refine .ite ((mark?_reads "=" rfl).branch (.seesIf argument.give (sound.type true).give) ?_) (.pure trivial)
  exact (mark?_reads ":" rfl).branch (.seesIf bounds.give (.pure trivial)) (.pure trivial)

theorem angledArguments_reads : Reads (angledArguments grammar) :=
  ((mark?_reads "::" rfl).then (angled_reads true (genericArgument_reads sound))).capture.give

theorem pathSegment_moves (inExpression : Bool) :
    Moves (pathSegment grammar inExpression) fun _ => True :=
  .seesIf (anyWord_moves.first fun _ _ => .pure trivial) ((nameOr_moves "Self").first fun _ _ =>
    .seesIf (angledArguments_reads sound).give (.pure trivial))

theorem furtherSegments_reads (inExpression : Bool) (test : List Token → Bool) :
    Reads (furtherSegments grammar inExpression test) :=
  (((mark_reads "::" rfl).then (pathSegment_moves sound inExpression).yields).many test).mono
    fun _ _ => trivial

theorem unqualifiedPath_moves (inExpression : Bool) :
    Moves (unqualifiedPath grammar inExpression) fun _ => True :=
  (mark?_reads "::" rfl).second fun _ _ => (pathSegment_moves sound inExpression).first fun _ _ =>
    (furtherSegments_reads sound inExpression _).give

theorem path_moves (inExpression : Bool) : Moves (path grammar inExpression) fun _ => True := by
  refine .seesIf ((mark_moves "<" rfl).first fun _ _ => (sound.type true).bind fun _ _ =>
    (keyword?_reads "as").bind fun _ _ => .optional (unqualifiedPath_moves sound false).yields ?_)
    (unqualifiedPath_moves sound inExpression)
  exact (mark_reads ">" rfl).then ((mark_reads "::" rfl).then ((pathSegment_moves sound _).yields.bind fun _ _ =>
    (furtherSegments_reads sound _ _).give))

end

end ObjectMapping.Source
