/-
This file proves which tokens change when the body of a closure is put in place of a value: the parameters
are replaced wherever they stand as whole words, in each token of the body on its own.
-/

import ObjectMapping.Proofs.Inlining
import ObjectMapping.Proofs.Mapper.Transform
import ObjectMapping.Proofs.Source.Rename

namespace ObjectMapping

open Source Text

namespace Closure

/-- Each parameter is replaced by one of the mapping method. -/
theorem mem_renames {closure : Closure} {methodParams : List String} {keepFirst : Bool} {rename : WordRename}
    (member : rename ∈ closure.renames methodParams keepFirst) :
    ∃ param ∈ closure.params, ∃ target ∈ methodParams, rename = ⟨param.toList, target.toList⟩ := by
  obtain ⟨param, target, ⟨_, _, _, isParam, isTarget⟩, _, rfl⟩ := mem_renames_iff.mp member
  exact ⟨param, List.mem_of_getElem? isParam, target, List.mem_of_getElem? isTarget, rfl⟩

theorem IsWritten.renames {closure : Closure} (closureWritten : closure.IsWritten)
    {methodParams : List String} (names : ∀ name ∈ methodParams, IsName name) (keepFirst : Bool) :
    AreIdentifiers (closure.renames methodParams keepFirst) := by
  intro rename member
  obtain ⟨param, isParam, target, isTarget, rfl⟩ := mem_renames member
  exact ⟨(closureWritten.params param isParam).word, (names target isTarget).word⟩

/-- The text that replaces the parameters of a closure has the tokens of its body with the parameters
replaced in each if and only if these are still tokens. A token in which no parameter stands as a whole
word stays, as operators and brackets do, and a name is replaced by another name if it is a parameter. -/
theorem inline?_tokens {text : String} {file : SourceFile} (read : SourceFile.ofText text = .ok file)
    {host : Host} {closure : Closure} (given : .closure closure ∈ file.transforms host) {body : String}
    (isExpression : closure.body = .expression body) {methodParams : List String}
    (names : ∀ name ∈ methodParams, IsName name) (keepFirst : Bool) :
    let renames := closure.renames methodParams keepFirst
    ∃ before inlined, scan body.toList = some before ∧
      closure.inline? methodParams keepFirst = some inlined ∧
      ((∃ after, scan inlined.toList = some after ∧
          after.map (·.lexeme) = before.map (·.lexeme.rename renames)) ↔
        ∀ token ∈ before, (token.lexeme.rename renames).IsSpelt) ∧
      (∀ token ∈ before,
        (token.lexeme.needsSeparator → ∀ rename ∈ renames, ¬rename.IsIn token.lexeme.text.toList) →
          token.lexeme.rename renames = token.lexeme ∧ token.lexeme.IsSpelt) ∧
      ∀ token ∈ before, ∀ name, token.lexeme = .word name → (∀ char ∈ name.toList, isWordChar char) →
        ∃ other, token.lexeme.rename renames = .word other ∧ IsName other ∧
          other = (renames.find? (·.word == name.toList)).elim name fun rename =>
            String.ofList rename.replacement := by
  intro renames
  have closureWritten : closure.IsWritten :=
    SourceFile.transforms_areWritten read host _ given
  have identifiers := closureWritten.renames names keepFirst
  obtain ⟨tokens, phrase, rfl⟩ := closureWritten.body body isExpression
  obtain ⟨before, scanned, renamed⟩ := scan_renamed phrase identifiers
  have spelt : ∀ token ∈ before, token.lexeme.IsSpelt := fun token member =>
    (scan_isSource scanned).spelt _ (List.mem_map_of_mem member)
  refine ⟨before, renameWords renames (tokensText tokens), scanned, ?_, renamed, ?_, ?_⟩
  · rw [inline?, isExpression]
  · intro token member absent
    refine ⟨?_, spelt token member⟩
    by_cases separable : token.lexeme.needsSeparator
    · exact Lexeme.rename_unchanged (absent separable)
    · exact Lexeme.rename_sign separable
  · intro token member name isWord wordChars
    rw [isWord]
    refine ⟨_, Lexeme.rename_word identifiers wordChars, ?_, rfl⟩
    cases found : renames.find? (·.word == name.toList) with
    | none =>
        have kept := spelt token member
        rwa [isWord] at kept
    | some rename =>
        obtain ⟨_, _, target, isTarget, rfl⟩ := mem_renames (List.mem_of_find?_eq_some found)
        have target_isName := names target isTarget
        rwa [← String.ofList_toList (s := target)] at target_isName

/-- A mapper with closures that hold the name of their parameter behind a point and in literals. -/
def sampleText : String :=
  "trait Sample \x7b fn new() \x7b map_member(|d| d.first, |id| id.id); " ++
    "map_member(|d| d.second, |id| f(\"id\")); map_member(|d| d.third, |id| f(b\"id\")); \x7d \x7d"

def sampleClosure (body : String) (column : Nat) : Closure := ⟨["id"], .expression body, ⟨1, column⟩⟩

def sampleTransforms : List Transform :=
  [.closure (sampleClosure "id . id" 50), .closure (sampleClosure "f (\"id\")" 88),
    .closure (sampleClosure "f (b\"id\")" 127)]

theorem sampleText_reads :
    ∃ file, SourceFile.ofText sampleText = .ok file ∧ file.transforms ⟨.empty, []⟩ = sampleTransforms := by
  have reads : (match SourceFile.ofText sampleText with
      | .ok file => decide (file.transforms ⟨.empty, []⟩ = sampleTransforms)
      | .error _ => false) = true := by
    have chars : CharsOf sampleText _ := .append (.literal _) _
    rw [SourceFile.ofText_chars chars]
    decide +kernel
  split at reads
  · next file read => exact ⟨file, read, of_decide_eq_true reads⟩
  · cases reads

/-- The field `id` of a parameter `id` is renamed with it, so is a word in a string, and a string of bytes
that a name of other letters gets into is no token. -/
theorem inline?_fields_and_literals :
    (∃ file, SourceFile.ofText sampleText = .ok file ∧ file.transforms ⟨.empty, []⟩ = sampleTransforms) ∧
      IsName "order" ∧ IsName "ö" ∧
      (sampleClosure "id . id" 50).inline? ["order"] false = some "order . order" ∧
      (scan "id . id".toList).map (·.map (·.lexeme)) = some [.word "id", .mark '.' false, .word "id"] ∧
      (scan "order . order".toList).map (·.map (·.lexeme)) =
        some [.word "order", .mark '.' false, .word "order"] ∧
      (sampleClosure "f (\"id\")" 88).inline? ["order"] false = some "f (\"order\")" ∧
      (sampleClosure "f (b\"id\")" 127).inline? ["ö"] false = some "f (b\"ö\")" ∧
      scan "f (b\"ö\")".toList = none := by
  refine ⟨sampleText_reads, ?_⟩
  decide +kernel

/-- The field access of the sample is inlined token by token. -/
theorem inline?_tokens_field :
    ∃ file, SourceFile.ofText sampleText = .ok file ∧
      .closure (sampleClosure "id . id" 50) ∈ file.transforms ⟨.empty, []⟩ ∧
      (∀ name ∈ ["order"], IsName name) ∧
      ∃ before after, scan "id . id".toList = some before ∧ scan "order . order".toList = some after ∧
        after.map (·.lexeme) =
          before.map (·.lexeme.rename ((sampleClosure "id . id" 50).renames ["order"] false)) := by
  obtain ⟨file, read, same⟩ := sampleText_reads
  have given : .closure (sampleClosure "id . id" 50) ∈ file.transforms ⟨.empty, []⟩ := by
    rw [same]
    exact List.mem_cons_self
  have names : ∀ name ∈ ["order"], IsName name := by decide +kernel
  obtain ⟨before, inlined, scanned, isInlined, renamed, _⟩ := inline?_tokens read given rfl names false
  have isOrder : inlined = "order . order" := by
    have found : (sampleClosure "id . id" 50).inline? ["order"] false = some "order . order" := by
      decide +kernel
    exact Option.some.inj (isInlined.symm.trans found)
  have spelt : (scan "id . id".toList).all fun tokens => tokens.all fun token => decide
      (token.lexeme.rename ((sampleClosure "id . id" 50).renames ["order"] false)).IsSpelt := by
    decide +kernel
  rw [scanned] at spelt
  obtain ⟨after, afterScanned, afterSame⟩ := renamed.mpr fun token member =>
    of_decide_eq_true (List.all_eq_true.mp spelt token member)
  exact ⟨file, read, given, names, before, after, scanned, isOrder ▸ afterScanned, afterSame⟩

end Closure

end ObjectMapping
