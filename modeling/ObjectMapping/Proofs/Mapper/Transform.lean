/-
This file proves that the value expressions that the directives of a source file give are written in it:
the parameters of a closure are names, and the text of its body is that of a phrase.
-/

import ObjectMapping.Proofs.Mapper.Instruction
import ObjectMapping.Proofs.Source.File

namespace ObjectMapping

open Source

/-- The scanner reads the name as a word. -/
def IsName (name : String) : Prop := (Lexeme.word name).IsSpelt

instance (name : String) : Decidable (IsName name) := inferInstanceAs (Decidable (Lexeme.IsSpelt _))

/-- The text is that of a phrase. -/
def IsPhraseText (text : String) : Prop := ∃ tokens, IsPhrase tokens ∧ text = tokensText tokens

/-- A closure as it can stand in a source text. -/
structure Closure.IsWritten (closure : Closure) : Prop where
  params : ∀ param ∈ closure.params, IsName param
  body : ∀ text, closure.body = .expression text → IsPhraseText text

/-- A value expression as it can stand in a source text. -/
def Transform.IsWritten : Transform → Prop
  | .closure value => value.IsWritten
  | .path function _ => IsPhraseText function

/-- The statements of the functions that the traits of a source file declare. -/
def Source.SourceFile.statements (file : SourceFile) : List Statement :=
  file.items.flatMap fun item =>
    match item.item with
    | .trait declared => declared.members.flatMap fun
        | .function _ _ (some body) => body
        | _ => []
    | _ => []

/-- The value expressions that the directives of a source file give. -/
def Source.SourceFile.transforms (file : SourceFile) (host : Host) : List Transform :=
  file.statements.flatMap fun statement =>
    match Mapper.instruction host statement with
    | .ok instruction => instruction.transforms
    | .error _ => []

theorem Source.SourceFile.statements_isSound {text : String} {file : SourceFile}
    (read : SourceFile.ofText text = .ok file) : ∀ statement ∈ file.statements, statement.IsSound := by
  intro statement inFile
  obtain ⟨item, isItem, inItem⟩ := List.mem_flatMap.mp inFile
  have sound := SourceFile.ofText_isSound read item isItem
  cases written : item.item with
  | trait declared =>
      rw [written] at sound inItem
      obtain ⟨member, isMember, inMember⟩ := List.mem_flatMap.mp inItem
      have memberSound := sound member isMember
      cases member with
      | function tokens signature body =>
          cases body with
          | none => cases inMember
          | some statements => exact memberSound statements rfl statement inMember
      | other => cases inMember
  | _ =>
      rw [written] at inItem
      cases inItem

namespace Mapper

theorem closureParam_isName {pattern : Pattern} {name : String} (sound : pattern.IsSound)
    (read : closureParam pattern = .ok name) : IsName name := by
  fun_induction closureParam pattern with
  | case1 tokens binder =>
      cases read
      exact sound
  | case2 tokens inner inductionHypothesis => exact inductionHypothesis sound read
  | case3 tokens inner inductionHypothesis => exact inductionHypothesis sound read
  | case4 =>
      cases read
      decide +kernel
  | case5 => cases read

theorem closureBody_isPhrase {expression : Expression} {text : String} (sound : expression.IsSound)
    (read : closureBody expression = .expression text) : IsPhraseText text := by
  fun_induction closureBody expression with
  | case1 tokens inner inductionHypothesis =>
      cases sound with
      | wrapped _ innerSound => exact inductionHypothesis innerSound read
  | case2 => cases read
  | case3 expression =>
      cases read
      exact ⟨expression.tokens, sound.phrase, rfl⟩

/-- A value expression that is read from a sound expression is written. -/
theorem transform_isWritten {expression : Expression} {value : Transform} (sound : expression.IsSound)
    (read : transform expression = .ok value) : value.IsWritten := by
  cases sound with
  | closure _ paramsSound bodySound =>
      obtain ⟨names, namesRead, same⟩ := (bind_ok _ _ _).mp read
      cases same
      refine ⟨fun name isName => ?_, fun text body => closureBody_isPhrase bodySound body⟩
      obtain ⟨param, isParam, paramRead⟩ := mapM_ok_mem namesRead isName
      exact closureParam_isName (paramsSound param isParam) paramRead
  | path phrase =>
      cases read
      exact ⟨_, phrase, rfl⟩
  | _ => cases read

theorem transforms_areWritten {expressions : List Expression} {values : List Transform}
    (sound : ∀ expression ∈ expressions, expression.IsSound)
    (read : expressions.mapM transform = .ok values) : ∀ value ∈ values, value.IsWritten := by
  intro value isValue
  obtain ⟨expression, isExpression, valueRead⟩ := mapM_ok_mem read isValue
  exact transform_isWritten (sound expression isExpression) valueRead

theorem DirectiveCall.arguments_isSound {expression : Expression} {call : DirectiveCall}
    (sound : expression.IsSound) (found : DirectiveCall.ofExpression? expression = some call) :
    ∀ argument ∈ call.arguments, argument.IsSound := by
  unfold DirectiveCall.ofExpression? at found
  split at found
  · split at found
    · obtain ⟨directive, _, rfl⟩ := Option.map_eq_some_iff.mp found
      cases sound with
      | call _ _ argumentsSound => exact argumentsSound
    · cases found
  · cases found

theorem DirectiveCall.Gives.isWritten {host : Host} {call : DirectiveCall} {instruction : Instruction}
    (gives : call.Gives host instruction) (sound : ∀ argument ∈ call.arguments, argument.IsSound) :
    ∀ value ∈ instruction.transforms, value.IsWritten := by
  cases gives with
  | mapMember member source name value _ arguments _ taken =>
      have sourceSound := sound source (by simp [arguments])
      simpa [Instruction.transforms] using transform_isWritten sourceSound taken
  | mapSameCollection member item name element _ arguments _ taken =>
      have itemSound := sound item (by simp [arguments])
      simpa [Instruction.transforms] using transform_isWritten itemSound taken
  | mapCollection member source item name value element _ arguments _ taken alsoTaken =>
      have sourceSound := sound source (by simp [arguments])
      have itemSound := sound item (by simp [arguments])
      simpa [Instruction.transforms] using
        And.intro (transform_isWritten sourceSound taken) (transform_isWritten itemSound alsoTaken)
  | useConstructor values _ taken => exact transforms_areWritten sound taken
  | ignoreMember | useEmptyConstructor | includeMappers | mapEnum => nofun

/-- A member that is selected is named. -/
theorem selector_isName {expression : Expression} {member : String} (sound : expression.IsSound)
    (selected : selector expression = .ok member) : IsName member := by
  unfold selector at selected
  dsimp only at selected
  split at selected
  · next tokens param body =>
      obtain ⟨name, _, selected⟩ := (bind_ok _ _ _).mp selected
      split at selected
      · split at selected
        · cases selected
          cases sound with
          | closure _ _ bodySound =>
              cases bodySound with
              | field _ _ named => exact named _ rfl
        · cases selected
      · cases selected
  · cases selected

/-- The member that an instruction is about. -/
def Instruction.member? : Instruction → Option String
  | .mapMember directive => some directive.member
  | .ignoreMember directive => some directive.member
  | .mapCollection directive => some directive.member
  | .chooseConstructor _ | .includeMappers _ | .mapEnum _ | .none _ => .none

theorem DirectiveCall.Gives.isNamed {host : Host} {call : DirectiveCall} {given : Instruction}
    (gives : call.Gives host given) (sound : ∀ argument ∈ call.arguments, argument.IsSound) :
    ∀ member ∈ given.member?, IsName member := by
  have first {member : Expression} {name : String} (isFirst : call.arguments.head? = some member)
      (selected : selector member = .ok name) : ∀ other ∈ some name, IsName other := by
    intro other same
    cases same
    exact selector_isName (sound member (List.mem_of_mem_head? isFirst)) selected
  cases gives with
  | mapMember _ _ _ _ _ arguments selected => exact first (by rw [arguments]; rfl) selected
  | ignoreMember _ _ _ arguments selected => exact first (by rw [arguments]; rfl) selected
  | mapSameCollection _ _ _ _ _ arguments selected => exact first (by rw [arguments]; rfl) selected
  | mapCollection _ _ _ _ _ _ _ arguments selected => exact first (by rw [arguments]; rfl) selected
  | useConstructor | useEmptyConstructor | includeMappers | mapEnum => nofun

/-- What a sound statement gives: its value expressions are written, and the member that it is about is named. -/
structure Instruction.IsWritten (given : Instruction) : Prop where
  values : ∀ value ∈ given.transforms, value.IsWritten
  member : ∀ member ∈ given.member?, IsName member

theorem instruction_isWritten {host : Host} {statement : Statement} {given : Instruction}
    (sound : statement.IsSound) (read : instruction host statement = .ok given) : given.IsWritten := by
  cases instruction_says read with
  | nothing => exact ⟨nofun, nofun⟩
  | directive call given isCall gives =>
      cases statement with
      | expression tokens value terminated =>
          have argumentsSound := DirectiveCall.arguments_isSound sound isCall
          exact ⟨gives.isWritten argumentsSound, gives.isNamed argumentsSound⟩
      | other => cases isCall

end Mapper

/-- The value expressions that the directives of a source file give are written. -/
theorem Source.SourceFile.transforms_areWritten {text : String} {file : SourceFile}
    (read : SourceFile.ofText text = .ok file) (host : Host) :
    ∀ value ∈ file.transforms host, value.IsWritten := by
  intro value given
  obtain ⟨statement, inFile, inStatement⟩ := List.mem_flatMap.mp given
  split at inStatement
  · next instruction understood =>
      exact (Mapper.instruction_isWritten (SourceFile.statements_isSound read statement inFile) understood).values
        value inStatement
  · cases inStatement

end ObjectMapping
