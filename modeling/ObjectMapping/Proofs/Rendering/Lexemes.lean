/-
This file says how values, statements and functions stand among the lexemes of generated code, next to the text that
these are read from, and proves that what is rendered stands there.
-/

import ObjectMapping.Proofs.Rendering.Identifier
import ObjectMapping.Proofs.Source.Rename
import ObjectMapping.Rendering.Mapper

namespace ObjectMapping.Rendering

open Source

/-- The lexemes of a stretch of text. -/
def lexed (text : String) : List Lexeme :=
  ((scanFrom Location.startOfText text.toList).getD []).map (·.lexeme)

/-- The lexemes of a literal, by its characters. -/
theorem lexed_ofList (chars : List Char) : lexed (String.ofList chars) =
    ((scanFrom Location.startOfText chars).getD []).map (·.lexeme) := by
  rw [lexed, String.toList_ofList]

/-- The text that collects what an iterator gives. -/
def collectText (kind : CollectionKind) : String :=
  ".collect:: < " ++ kind.standardPath ++ (if kind.isSlice then " < [_] > > ()" else " < _ > > ()")

/-- What stands in brackets of a kind. -/
def within (delimiter : Delimiter) (inner : List Lexeme) : List Lexeme :=
  .opening delimiter :: (inner ++ [.closing delimiter])

def comma : Lexeme := .mark ',' false

/-- What follows an iterator whose elements are transformed and collected. -/
def mapped (binder : String) (code : List Lexeme) (kind : CollectionKind) : List Lexeme :=
  lexed ".map" ++ within .parenthesis ([.mark '|' false, .word binder, .mark '|' false] ++ code) ++
    lexed (collectText kind)

/-- How a value is written. -/
inductive Value.WrittenAs : Value → List Lexeme → Prop
  | field (owner member : String) :
      WrittenAs (.place owner member .field) [.word owner, .mark '.' false, .word member]
  | getter (owner member : String) :
      WrittenAs (.place owner member .property)
        ([.word owner, .mark '.' false, .word member] ++ within .parenthesis [])
  | variable (name : String) : WrittenAs (.variable name) [.word name]
  | written (tokens : List Token) : WrittenAs (.written tokens) (tokens.map (·.lexeme))
  | dereferenced (value : Value) (code : List Lexeme) (written : WrittenAs value code) :
      WrittenAs (.dereferenced value) (.mark '*' false :: code)
  | cloned (value : Value) (code : List Lexeme) (written : WrittenAs value code) :
      WrittenAs (.cloned value) (code ++ lexed ".clone()")
  | owned (value : Value) (code : List Lexeme) (written : WrittenAs value code) :
      WrittenAs (.owned value) (code ++ lexed ".to_owned()")
  | borrowed (value : Value) (code : List Lexeme) (written : WrittenAs value code) :
      WrittenAs (.borrowed value) (.mark '&' false :: code)
  | borrowedResult (value : Value) (code : List Lexeme) (written : WrittenAs value code) :
      WrittenAs (.borrowedResult value) (.mark '&' false :: within .parenthesis code)
  | widened (value : Value) (target : Scalar) (code : List Lexeme) (written : WrittenAs value code) :
      WrittenAs (.widened value target) (.word target.ident :: lexed "::from" ++ within .parenthesis code)
  | some (value : Value) (code : List Lexeme) (written : WrittenAs value code) :
      WrittenAs (.some value) (lexed "::core::option::Option::Some" ++ within .parenthesis code)
  | converted (function : String) (value : Value) (code : List Lexeme) (written : WrittenAs value code) :
      WrittenAs (.converted function value) (lexed "Self::" ++ .word function :: within .parenthesis code)
  | delegated (mapper method : String) (arguments : List Value) (codes : List (List Lexeme))
      (each : List.Forall₂ WrittenAs arguments codes) :
      WrittenAs (.delegated mapper method arguments)
        (lexed "self." ++ .word mapper :: .mark '.' false :: .word method ::
          within .parenthesis ([comma].intercalate codes))
  | collected (source : Value) (binder : String) (transform : Value) (target : CollectionKind)
      (place code : List Lexeme) (taken : WrittenAs source place) (written : WrittenAs transform code) :
      WrittenAs (.collected source binder transform target)
        (place ++ lexed ".iter()" ++ mapped binder code target)
  | collectedWritten (tokens : List Token) (binder : String) (transform : Value) (target : CollectionKind)
      (code : List Lexeme) (written : WrittenAs transform code) :
      WrittenAs (.collectedWritten tokens binder transform target)
        (within .parenthesis (tokens.map (·.lexeme)) ++ lexed ".into_iter()" ++ mapped binder code target)

/-- How a field of a struct literal is written. -/
inductive FieldValue.WrittenAs : FieldValue → List Lexeme → Prop
  | given (field : String) (value : Value) (code : List Lexeme) (written : value.WrittenAs code) :
      WrittenAs ⟨field, some value⟩ ([.word field, .mark ':' false] ++ code)
  | defaulted (field : String) :
      WrittenAs ⟨field, none⟩ ([.word field, .mark ':' false] ++ lexed "::core::default::Default::default()")

/-- How the destination is created; a comma stands behind each field of a struct literal. -/
inductive Creation.WrittenAs : Creation → List Lexeme → Prop
  | literal (type : String) (fields : List FieldValue) (codes : List (List Lexeme))
      (each : List.Forall₂ FieldValue.WrittenAs fields codes) :
      WrittenAs (.literal type fields) (.word type :: within .brace (codes.flatMap (· ++ [comma])))
  | call (type function : String) (arguments : List Value) (codes : List (List Lexeme))
      (each : List.Forall₂ Value.WrittenAs arguments codes) :
      WrittenAs (.call type function arguments)
        ([.word type, .mark ':' true, .mark ':' false, .word function] ++
          within .parenthesis ([comma].intercalate codes))

/-- How a write is written as a statement. A setter is named after its property without the sign of raw
identifiers. -/
inductive Write.WrittenAs : Write → List Lexeme → Prop
  | field (member : String) (value : Value) (code : List Lexeme) (written : value.WrittenAs code) :
      WrittenAs (.field member value)
        (lexed "__mapgen_result." ++ .word member :: .mark '=' false :: (code ++ [.mark ';' false]))
  | property (member : String) (value : Value) (code : List Lexeme) (notRaw : ¬['r', '#'] <+: member.toList)
      (written : value.WrittenAs code) :
      WrittenAs (.property member value)
        (lexed "__mapgen_result." ++ .word ("set_" ++ member) :: (within .parenthesis code ++ [.mark ';' false]))
  | rawProperty (member : String) (value : Value) (code : List Lexeme) (written : value.WrittenAs code) :
      WrittenAs (.property ("r#" ++ member) value)
        (lexed "__mapgen_result." ++ .word ("set_" ++ member) :: (within .parenthesis code ++ [.mark ';' false]))

/-- How a body is written: with writes, a variable holds the destination. -/
inductive Body.WrittenAs : Body → List Lexeme → Prop
  | creation (creation : Creation) (code : List Lexeme) (created : creation.WrittenAs code) :
      WrittenAs ⟨creation, []⟩ code
  | writes (creation : Creation) (writes : List Write) (code : List Lexeme) (codes : List (List Lexeme))
      (some : writes ≠ []) (created : creation.WrittenAs code) (each : List.Forall₂ Write.WrittenAs writes codes) :
      WrittenAs ⟨creation, writes⟩
        (lexed "let mut __mapgen_result =" ++ code ++ [.mark ';' false] ++ codes.flatten ++
          [.word "__mapgen_result"])

/-- A mapping method, whose body is written after what the user wrote in front of it. -/
def methodCode (signature : Signature) (body : List Lexeme) : List Lexeme :=
  lexed "#[allow(unused_variables)] pub" ++ lexemes signature.qualifiers ++ [.word "fn", .word signature.name] ++
    lexemes signature.generics ++ within .parenthesis (lexed "&self," ++ lexemes signature.inputTokens) ++
    lexemes signature.resultTokens ++ lexemes signature.bounds ++ within .brace body

/-- The code holds an implementation of the type that consists of the members. -/
def Implements (type : String) (members code : List Lexeme) : Prop :=
  ∃ front back, code = front ++ [.word "impl", .word type] ++ within .brace members ++ back

/-- The fixed parts of generated code are what is scanned from their texts. -/
theorem fixed_lexed : method "clone" [] = lexed ".clone()" ∧ method "to_owned" [] = lexed ".to_owned()" ∧
    optionPath ["Some"] = lexed "::core::option::Option::Some" ∧ words "Self" ++ sign "::" = lexed "Self::" ∧
    words "self" ++ sign "." = lexed "self." ∧ sign "::" ++ words "from" = lexed "::from" ∧
    method "iter" [] = lexed ".iter()" ∧ method "into_iter" [] = lexed ".into_iter()" ∧
    sign "." ++ words "map" = lexed ".map" ∧ defaultValue = lexed "::core::default::Default::default()" ∧
    words resultName ++ sign "." = lexed "__mapgen_result." ∧
    words "let mut" ++ words resultName ++ sign "=" = lexed "let mut __mapgen_result =" ∧
    allow "unused_variables" ++ words "pub" = lexed "#[allow(unused_variables)] pub" ∧
    sign "&" ++ words "self" ++ sign "," = lexed "&self," := by
  repeat rw [lexed_ofList]
  decide +kernel

theorem collect_lexed : ∀ kind ∈ CollectionKind.all, sign "." ++ words "collect" ++ sign "::" ++
    angles (collectType kind) ++ parentheses [] = lexed (collectText kind) := by
  decide +kernel

theorem words_scalar (scalar : Scalar) : words scalar.ident = [.word scalar.ident] := by
  cases scalar <;> rfl

/-- A word that is an identifier stands by itself. -/
theorem words_usable {name : String} (usable : IsUsable name) : words name = [.word name] := by
  have noBlank : ∀ char ∈ name.toList, (char == ' ') = false := by
    intro char present
    rw [beq_eq_false_iff_ne]
    rintro rfl
    cases ((isUsable_iff name).mp usable).noSeparator present
  rw [words, Text.splitOnChars_whole noBlank, List.map_singleton, String.ofList_toList]

theorem collecting_eq {binder : String} (usable : IsUsable binder) (code : List Lexeme) (kind : CollectionKind) :
    collecting binder code kind = mapped binder code kind := by
  have collected := collect_lexed kind (by cases kind <;> decide)
  rw [mapped, ← collected, collecting, method, words_usable usable]
  simp only [fixed_lexed, List.append_assoc]
  rfl

/-- The name of a setter has no sign of raw identifiers. -/
theorem setterName_cases {member : String} (usable : IsUsable member) :
    (¬['r', '#'] <+: member.toList ∧ setterName member = "set_" ++ member) ∨
      ∃ bare, member = "r#" ++ bare ∧ setterName member = "set_" ++ bare := by
  have isIdentifier := (isUsable_iff member).mp usable
  generalize chars : member.toList = text at isIdentifier
  cases isIdentifier with
  | plain first others start continues =>
      have notRaw := isWord_ne_raw ((isWord_iff (first :: others)).mpr ⟨start, continues⟩)
      refine .inl ⟨fun ⟨rest, same⟩ => notRaw rest same.symm, ?_⟩
      rw [setterName, chars, withoutRaws.eq_2 _ notRaw, ← chars, String.ofList_toList]
  | raw first others start continues =>
      have notRaw := isWord_ne_raw ((isWord_iff (first :: others)).mpr ⟨start, continues⟩)
      refine .inr ⟨String.ofList (first :: others), ?_, ?_⟩
      · rw [← String.toList_inj, chars]
        simp
      · rw [setterName, chars, withoutRaws, withoutRaws.eq_2 _ notRaw]

theorem commaSeparated_eq (pieces : List (List Lexeme)) : commaSeparated pieces = [comma].intercalate pieces := by
  fun_induction commaSeparated pieces with
  | case1 => rfl
  | case2 last => simp
  | case3 piece rest notLast inductionHypothesis =>
      cases rest with
      | nil => exact absurd rfl notLast
      | cons next others =>
          rw [inductionHypothesis, List.intercalate_cons_cons]
          rfl

/-- The value is written as its lexemes. -/
def Value.IsWritten (value : Value) : Prop := value.WrittenAs value.lexemes

namespace Value.IsWritten

theorem place {owner name : String} (ownerUsable : IsUsable owner) (nameUsable : IsUsable name) (kind : MemberKind) :
    (Value.place owner name kind).IsWritten := by
  cases kind with
  | field =>
      rw [IsWritten, Value.lexemes, words_usable ownerUsable, words_usable nameUsable]
      exact .field owner name
  | property =>
      rw [IsWritten, Value.lexemes, method, words_usable ownerUsable, words_usable nameUsable]
      exact .getter owner name

theorem ofVariable {name : String} (usable : IsUsable name) : (Value.variable name).IsWritten := by
  rw [IsWritten, Value.lexemes, words_usable usable]
  exact .variable name

variable {value : Value}

theorem cloned (isWritten : value.IsWritten) : (Value.cloned value).IsWritten := by
  simp only [IsWritten, Value.lexemes, fixed_lexed]
  exact .cloned value _ isWritten

theorem dereferenced (isWritten : value.IsWritten) : (Value.dereferenced value).IsWritten := by
  rw [IsWritten, Value.lexemes]
  exact .dereferenced value _ isWritten

theorem owned (isWritten : value.IsWritten) : (Value.owned value).IsWritten := by
  simp only [IsWritten, Value.lexemes, fixed_lexed]
  exact .owned value _ isWritten

theorem each {values : List Value} (areWritten : ∀ value ∈ values, value.IsWritten) :
    List.Forall₂ Value.WrittenAs values (Value.eachLexemes values) := by
  induction values with
  | nil => exact .nil
  | cons value rest inductionHypothesis =>
      obtain ⟨first, others⟩ := List.forall_mem_cons.mp areWritten
      exact .cons first (inductionHypothesis others)

end Value.IsWritten

theorem mapM_written {α β : Type} {step : α → Except GenerationFault β} {writtenAs : β → List Lexeme → Prop}
    {lexemes : β → List Lexeme} (written : ∀ item made, step item = .ok made → writtenAs made (lexemes made))
    {items : List α} {all : List β} (made : items.mapM step = .ok all) :
    List.Forall₂ writtenAs all (all.map lexemes) := by
  rw [List.forall₂_map_right_iff, List.forall₂_same]
  intro one present
  obtain ⟨item, _, found⟩ := forall₂_right ((mapM_ok _ _ _).mp made) one present
  exact written item one found

theorem body_isWritten {creation : Creation} {writes : List Write} (created : creation.WrittenAs creation.lexemes)
    (each : List.Forall₂ Write.WrittenAs writes (writes.map Write.lexemes)) :
    (Body.mk creation writes).WrittenAs (Body.mk creation writes).lexemes := by
  cases writes with
  | nil => exact .creation creation _ created
  | cons first others =>
      have written := Body.WrittenAs.writes creation _ _ _ (List.cons_ne_nil _ _) created each
      simp only [Body.lexemes, List.isEmpty_cons, Bool.false_eq_true, ↓reduceIte, fixed_lexed, List.flatMap_def]
      exact written

namespace RenderedMapper

variable (mapper : RenderedMapper)

theorem method_written (usable : IsUsable mapper.signature.name) :
    mapper.methodLexemes = methodCode mapper.signature mapper.body.lexemes := by
  simp only [methodLexemes, methodCode, fixed_lexed, words_usable usable]
  simp only [List.append_assoc]
  rfl

/-- The code for a mapper implements its struct with the functions of the mapper. -/
theorem code_implements (usable : IsUsable mapper.name) :
    Implements mapper.name
      (mapper.newLexemes ++ mapper.methodLexemes ++ mapper.conversions.flatMap ConversionFunction.lexemes)
      mapper.code := by
  refine ⟨mapper.structLexemes ++ mapper.traitLexemes ++ words "const _" ++ sign ":" ++ parentheses [] ++
    sign "=" ++ [.opening .brace], mapper.defaultImplLexemes ++ mapper.traitImplLexemes ++
      [.closing .brace] ++ sign ";", ?_⟩
  simp only [code, implLexemes, braces, enclose, within, words_usable usable, List.append_assoc, List.cons_append]
  rfl

end RenderedMapper

namespace Scope

variable (scope : Scope)

theorem readMember_isWritten {owner name : String} (ownerUsable : IsUsable owner) (nameUsable : IsUsable name)
    (kind : MemberKind) (type : TypeRef) : (scope.readMember owner name kind type).IsWritten := by
  have place := Value.IsWritten.place ownerUsable nameUsable kind
  unfold readMember
  dsimp only
  split
  · split
    · exact place
    · exact place.cloned
  · split
    · exact place
    · split
      · exact place.dereferenced
      · exact place.owned

section

variable {expr : Expr} {value : Value} (made : scope.value expr = .ok value) (isWritten : value.IsWritten)
include made isWritten

theorem borrow_isWritten : (scope.borrow expr value).IsWritten := by
  unfold borrow
  split
  · next owner name kind type =>
      obtain ⟨ownerUsable, nameUsable, _⟩ := scope.value_member made
      have place := Value.IsWritten.place ownerUsable nameUsable kind
      dsimp only
      split
      · exact place
      · rw [Value.IsWritten, Value.lexemes]
        exact .borrowed _ _ place
  · exact .ofVariable (scope.value_item made).1
  · exact .ofVariable (scope.value_param made).1
  · rw [Value.IsWritten, Value.lexemes]
    exact .borrowedResult _ _ isWritten

theorem sourcePlace_isWritten : (sourcePlace expr value).IsWritten := by
  unfold sourcePlace
  split
  · obtain ⟨ownerUsable, nameUsable, _⟩ := scope.value_member made
    exact .place ownerUsable nameUsable _
  · exact isWritten

end

theorem delegateArguments_areWritten {exprs : List Expr} {values : List Value}
    (written : List.Forall₂ (fun expr value => scope.value expr = .ok value ∧ value.IsWritten) exprs values) :
    ∀ value ∈ scope.delegateArguments exprs values, value.IsWritten := by
  cases written with
  | nil => nofun
  | cons first others =>
      refine List.forall_mem_cons.mpr ⟨scope.borrow_isWritten first.1 first.2, fun value present => ?_⟩
      obtain ⟨_, _, _, isWritten⟩ := forall₂_right others value present
      exact isWritten

mutual

/-- The value of an expression is written as its lexemes: its names stand by themselves, for they were checked. -/
theorem value_isWritten : ∀ (expr : Expr) {value : Value}, scope.value expr = .ok value → value.IsWritten
  | .member owner name kind type, value, made => by
      obtain ⟨ownerUsable, nameUsable, rfl⟩ := scope.value_member made
      exact scope.readMember_isWritten ownerUsable nameUsable kind type
  | .param name, value, made => by
      obtain ⟨usable, rfl⟩ := scope.value_param made
      exact .ofVariable usable
  | .item name type, value, made => by
      obtain ⟨usable, rfl⟩ := scope.value_item made
      have isVariable := Value.IsWritten.ofVariable usable
      split
      · exact isVariable.dereferenced
      · exact isVariable.cloned
  | .verbatim text, value, made => by
      obtain ⟨tokens, rfl⟩ := scope.value_verbatim made
      rw [Value.IsWritten, Value.lexemes]
      exact .written tokens
  | .widen arg target, value, made => by
      obtain ⟨inner, isInner, rfl⟩ := scope.value_widen made
      simp only [Value.IsWritten, Value.lexemes, words_scalar, List.append_assoc, fixed_lexed]
      exact .widened inner target _ (value_isWritten arg isInner)
  | .some arg, value, made => by
      obtain ⟨inner, isInner, rfl⟩ := scope.value_some made
      simp only [Value.IsWritten, Value.lexemes, fixed_lexed]
      exact .some inner _ (value_isWritten arg isInner)
  | .enumConvert function arg, value, made => by
      obtain ⟨usable, inner, isInner, rfl⟩ := scope.value_enumConvert made
      simp only [Value.IsWritten, Value.lexemes, fixed_lexed, words_usable usable, List.append_assoc]
      exact .converted function _ _ (scope.borrow_isWritten isInner (value_isWritten arg isInner))
  | .delegate mapper method exprs, value, made => by
      obtain ⟨mapperUsable, methodUsable, arguments, areArguments, rfl⟩ := scope.value_delegate made
      have areWritten := scope.delegateArguments_areWritten (values_areWritten exprs areArguments)
      simp only [Value.IsWritten, Value.lexemes, fixed_lexed, Rendering.method, commaSeparated_eq,
        words_usable mapperUsable, words_usable methodUsable, List.append_assoc]
      exact .delegated mapper method _ _ (Value.IsWritten.each areWritten)
  | .collect source binder transform target, value, made => by
      obtain ⟨usable, place, element, isPlace, isElement, rfl⟩ := scope.value_collect made
      simp only [Value.IsWritten, Value.lexemes, fixed_lexed, collecting_eq usable]
      exact .collected _ binder element target _ _
        (scope.sourcePlace_isWritten isPlace (value_isWritten source isPlace)) (value_isWritten transform isElement)
  | .collectVerbatim source binder transform target, value, made => by
      obtain ⟨usable, tokens, element, isElement, rfl⟩ := scope.value_collectVerbatim made
      simp only [Value.IsWritten, Value.lexemes, fixed_lexed, collecting_eq usable]
      exact .collectedWritten tokens binder element target _ (value_isWritten transform isElement)

theorem values_areWritten : ∀ (exprs : List Expr) {values : List Value}, scope.values exprs = .ok values →
    List.Forall₂ (fun expr value => scope.value expr = .ok value ∧ value.IsWritten) exprs values
  | [], values, made => by
      rw [Scope.values] at made
      cases made
      exact .nil
  | expr :: rest, values, made => by
      obtain ⟨first, others, isFirst, areOthers, rfl⟩ := scope.values_cons made
      exact .cons ⟨isFirst, value_isWritten expr isFirst⟩ (values_areWritten rest areOthers)

end

theorem fieldValue_isWritten {plan : Plan} {member : Member} {entry : FieldValue}
    (made : scope.fieldValue plan member = .ok entry) : entry.WrittenAs entry.lexemes := by
  obtain ⟨usable, ⟨assignment, value, _, isValue, rfl⟩ | ⟨_, rfl⟩⟩ := scope.fieldValue_made made
  · rw [FieldValue.lexemes, words_usable usable]
    exact .given _ value _ (scope.value_isWritten assignment.expr isValue)
  · rw [FieldValue.lexemes, words_usable usable]
    simp only [Option.map_none, Option.getD_none, fixed_lexed]
    exact .defaulted _

theorem write_isWritten {assignment : MemberAssignment} {write : Write}
    (made : scope.write assignment = .ok write) : write.WrittenAs write.lexemes := by
  obtain ⟨usable, value, isValue, ⟨_, rfl⟩ | ⟨_, setterUsable, rfl⟩⟩ := scope.write_made made
  · simp only [Write.lexemes, fixed_lexed, words_usable usable, List.append_assoc]
    exact .field assignment.member value _ (scope.value_isWritten assignment.expr isValue)
  · have isWritten := scope.value_isWritten assignment.expr isValue
    simp only [Write.lexemes, method, ← List.append_assoc, fixed_lexed, words_usable setterUsable]
    simp only [List.append_assoc]
    obtain ⟨notRaw, named⟩ | ⟨bare, isRaw, named⟩ := setterName_cases usable
    · rw [named]
      exact .property assignment.member value _ notRaw isWritten
    · rw [named, isRaw]
      exact .rawProperty bare value _ isWritten

/-- The body of a mapping method is written as its lexemes. -/
theorem bodyWith_isWritten {plan : Plan} {call : ConstructorPlan} {destination : TypeDescriptor × StructType}
    {body : Body} (made : scope.bodyWith plan call destination = .ok body) : body.WrittenAs body.lexemes := by
  obtain ⟨typeUsable, ⟨_, fields, writes, fieldsMade, writesMade, rfl⟩ |
    ⟨function, _, arguments, writes, _, functionUsable, argumentsMade, writesMade, rfl⟩⟩ := scope.bodyWith_made made
  · refine body_isWritten ?_ (mapM_written (fun _ _ => scope.write_isWritten) writesMade)
    have each := mapM_written (fun _ _ => scope.fieldValue_isWritten) fieldsMade
    rw [Creation.lexemes, words_usable typeUsable]
    exact .literal _ fields _ each
  · refine body_isWritten ?_ (mapM_written (fun _ _ => scope.write_isWritten) writesMade)
    have each := mapM_written (fun argument _ => scope.value_isWritten argument.expr) argumentsMade
    rw [Creation.lexemes, words_usable typeUsable, words_usable functionUsable, commaSeparated_eq]
    exact .call _ function arguments _ each

end Scope

end ObjectMapping.Rendering
