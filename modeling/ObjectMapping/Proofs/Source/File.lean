/-
This file proves by induction over the levels that the readers of every grammar read and write phrases,
and concludes what holds of the items of a source file.
-/

import ObjectMapping.Proofs.Source.Grammar.Item
import ObjectMapping.Proofs.Source.Grammar.Statement
import ObjectMapping.Source.File

namespace ObjectMapping.Source

open Reader

namespace Grammar

/-- The readers over a sound grammar make a sound grammar. -/
theorem above_isSound {inner : Grammar} (sound : inner.IsSound) : (above inner).IsSound where
  type := type_reads sound
  bound := bound_reads sound
  expression := expression_yields sound
  operand := operand_moves sound
  ending := ending_yields sound
  operation allowsStruct precedence _ leftSound := operation_yields sound allowsStruct precedence leftSound
  pattern := pattern_yields sound
  statements := statements_yields sound
  item := item_yields sound
  useTree := useTree_reads sound

theorem level_isSound (depth : Nat) : (level depth).IsSound := by
  induction depth with
  | zero => exact none_isSound
  | succ depth inductionHypothesis => exact above_isSound inductionHypothesis

theorem forLength_isSound (length : Nat) : (forLength length).IsSound := level_isSound _

end Grammar

/-- An item is read twice from the same tokens. -/
theorem fileItem_yields {grammar : Grammar} (sound : grammar.IsSound) :
    Yields (fileItem grammar) fun found => found.item.IsRead := by
  intro before after value source _ ran
  obtain ⟨start, between, first, ran⟩ := Reader.bind_ok ran
  cases first
  obtain ⟨_, between, first, ran⟩ := Reader.bind_ok ran
  obtain ⟨_, between, first, ran⟩ := Reader.bind_ok ran
  obtain ⟨_, between, first, ran⟩ := Reader.bind_ok ran
  cases first
  obtain ⟨found, between, itemRan, ran⟩ := Reader.bind_ok ran
  cases ran
  exact @sound.item { before with keepsOptions := true } after found source trivial itemRan

/-- The characters of a text that is put together from literals. The kernel computes with them much faster than with
the bytes of the text. -/
inductive CharsOf : String → List Char → Prop
  | literal (chars : List Char) : CharsOf (String.ofList chars) chars
  | append {front : String} {first : List Char} (inFront : CharsOf front first) (chars : List Char) :
      CharsOf (front ++ String.ofList chars) (first ++ chars)

theorem CharsOf.toList {text : String} {chars : List Char} (same : CharsOf text chars) : text.toList = chars := by
  induction same with
  | literal chars => exact String.toList_ofList
  | append _ chars inductionHypothesis => rw [String.toList_append, inductionHypothesis, String.toList_ofList]

namespace SourceFile

/-- A source file is read from the characters of its text. -/
theorem ofText_chars {text : String} {chars : List Char} (same : CharsOf text chars) :
    ofText text = match scan (withoutInterpreterLine (withoutByteOrderMark chars)) with
      | some tokens => ofTokens tokens
      | none => .error .noTokens := by
  change (match scanFile text with
    | some tokens => ofTokens tokens
    | none => .error .noTokens) = _
  rw [scanFile, same.toList]

theorem ofTokens_isRead {tokens : List Token} {file : SourceFile} (source : IsSource tokens)
    (read : ofTokens tokens = .ok file) : ∀ item ∈ file.items, item.item.IsRead := by
  have sound := Grammar.forLength_isSound tokens.length
  obtain ⟨⟨written, items⟩, ran, last⟩ := (ObjectMapping.bind_ok _ _ _).mp read
  cases last
  unfold Reader.run at ran
  split at ran
  · rename_i value after bodyRan
    split at ran
    · cases ran
      have items := (innerAttributes_reads sound).then (fileItem_yields sound).untilEnd
      exact (items source trivial bodyRan).2
    · cases ran
  · cases ran

theorem ofText_isRead {text : String} {file : SourceFile} (read : ofText text = .ok file) :
    ∀ item ∈ file.items, item.item.IsRead := by
  unfold ofText at read
  split at read
  · rename_i tokens scanned
    exact ofTokens_isRead (scanFile_isSource scanned) read
  · cases read

/-- The items of a source file are sound. -/
theorem ofText_isSound {text : String} {file : SourceFile} (read : ofText text = .ok file) :
    ∀ item ∈ file.items, item.item.IsSound := fun item present => (ofText_isRead read item present).sound

end SourceFile

end ObjectMapping.Source
