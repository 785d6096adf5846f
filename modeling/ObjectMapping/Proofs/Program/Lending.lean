/-
This file proves how the methods of generated mappers call each other: where a method borrows what it takes first,
its callers lend it, and they hand on further parameters of their own by name.
-/

import ObjectMapping.Proofs.Program.PublicInterface
import ObjectMapping.Proofs.Rendering.Calls

namespace ObjectMapping

open Host Rendering Source

namespace Source

/-- Whether the type is a shared reference. -/
def WrittenType.isShared : WrittenType → Bool
  | .reference _ isMutable _ => !isMutable
  | _ => false

/-- Whether the type is a reference. -/
def WrittenType.isReference : WrittenType → Bool
  | .reference _ _ _ => true
  | _ => false

/-- The method takes a shared reference first. -/
def Signature.BorrowsFirst (signature : Signature) : Prop :=
  ∃ pattern type others, typedInputs signature = (pattern, type) :: others ∧ type.isShared = true

end Source

namespace Rendering

/-- A value is a shared borrow in a method that maps from the given source: the borrow of a value, what a getter
gives as a reference, or an element that `iter` binds. -/
inductive Value.IsLent (items : List Item) (param source : String) (lent : List String) : Value → Prop
  | borrowed (value : Value) : IsLent items param source lent (.borrowed value)
  | borrowedResult (value : Value) : IsLent items param source lent (.borrowedResult value)
  | getter (member : String) (lends : LendsMember items source member) :
      IsLent items param source lent (.place param member .property)
  | element (name : String) (bound : name ∈ lent) : IsLent items param source lent (.variable name)

/-- The first argument of the call is a shared borrow. -/
def DelegatedCall.LendsFirst (items : List Item) (param source : String) (call : DelegatedCall) : Prop :=
  ∃ value, call.arguments.head? = some value ∧ value.IsLent items param source call.lent

/-- How a method calls that of a mapper which it holds. -/
structure RenderedMapper.Calls (items : List Item) (param source : String) (caller callee : RenderedMapper)
    (call : DelegatedCall) : Prop where
  held : ⟨call.field, callee.name⟩ ∈ caller.fields
  method : callee.signature.name = call.method
  count : call.arguments.length = (typedInputs callee.signature).length
  /-- What the called method borrows is lent to it. -/
  first : callee.signature.BorrowsFirst → call.LendsFirst items param source
  /-- Further arguments are the names of the caller's parameters at their places. -/
  further : ∀ index, 0 < index → index < call.arguments.length → ∃ tokens name type,
    (typedInputs caller.signature)[index]? = some (.name tokens name, type) ∧
      call.arguments[index]? = some (.variable name)

end Rendering

namespace Mapper

/-- The parameters of a mapping method stand at their places in the signature. -/
theorem mappingMethod_param {host : Host} {signature : Signature} {method : MapperMethod}
    (declared : mappingMethod host signature = .ok method) {index : Nat} {param : Parameter}
    (isParam : method.params[index]? = some param) : ∃ tokens type,
      (typedInputs signature)[index]? = some (.name tokens param.name, type) := by
  have inOrder := (mappingMethod_declares declared).params
  generalize method.params = params at inOrder isParam
  generalize typedInputs signature = inputs at inOrder ⊢
  induction inOrder generalizing index with
  | nil => cases isParam
  | @cons input _ _ _ isInput _ inductionHypothesis =>
      cases index with
      | succ index => exact inductionHypothesis isParam
      | zero =>
          cases isParam
          obtain ⟨pattern, type⟩ := input
          obtain ⟨tokens, rfl, _⟩ := methodParam_ok isInput
          exact ⟨tokens, type, rfl⟩

end Mapper

namespace Program

variable {program : Program}

/-- What a scope takes for lent is a shared borrow. -/
theorem isLent_of_lends {items : List Item} {draft : SchemaDraft} (collected : IsCollected items program.host draft)
    {mapper : Mapper} {included : List IncludedMapper} {task : MappingTask}
    (isFor : task.IsFor ⟨mapper.name, mapper.method, mapper.directives, included⟩ program.host.schema)
    {lent : List String} {value : Value}
    (lends : (Scope.mk program.host mapper.method.params).Lends task.sourceParam lent value) :
    value.IsLent items task.sourceParam task.source.ident lent := by
  cases lends with
  | borrowed value => exact .borrowed value
  | borrowedResult value => exact .borrowedResult value
  | element name bound => exact .element name bound
  | getter member isLent =>
      obtain ⟨id, others, params, found, isStruct⟩ := isFor.source
      change mapper.method.params = _ at params
      have ofSource : program.host.isLent id member = true := by
        rw [Scope.isLent, params, List.find?_cons_of_pos (by simp)] at isLent
        exact isLent
      obtain ⟨_, _, isNamed, _⟩ := collected.describes found isStruct
      exact .getter member (collected.lendsMember isNamed ofSource)

/-- Calls in the code for a mapper are calls of mappers of the program. -/
theorem RendersMapper.calls {items : List Item} {draft : SchemaDraft} {mapper : Mapper}
    (collected : IsCollected items program.host draft) (sound : program.IsSound) (isMapper : mapper ∈ program.mappers)
    {code : List RenderedMapper} (renders : List.Forall₂ program.RendersMapper program.mappers code)
    {caller : RenderedMapper} (made : program.RendersMapper mapper caller) : ∃ param source destination,
      caller.signature.Maps param source destination ∧
        ∀ call ∈ caller.body.calls, ∃ callee ∈ code, caller.Calls items param source callee call := by
  obtain ⟨included, resolution, includes, among, resolved, isOf⟩ := made
  obtain ⟨task, accepted, rfl⟩ := ((request mapper included).resolve_ok _ _).mp resolved
  have isFor := Request.toTask_ok _ _ _ accepted
  have declared := (sound.mappers mapper isMapper).declared
  obtain ⟨call, _, destination, _, _, _, carries⟩ := isOf.body
  refine ⟨task.sourceParam, task.source.ident, task.destination.ident, ?maps, fun delegated present => ?calls⟩
  case maps =>
    rw [isOf.signature]
    exact Mapper.mappingMethod_maps collected declared isFor
  case calls =>
    obtain ⟨exprs, ⟨_, isIncluded, called, isMethod, sameField, sameMethod, isCalled⟩, handsOn⟩ :=
      MappingTask.carriesOut_handsOn carries delegated present
    rw [isFor.sameRequest] at isIncluded isCalled
    obtain ⟨selected, isSelected, rfl⟩ := List.mem_map.mp isIncluded
    obtain rfl := List.mem_singleton.mp isMethod
    have selectedDeclared := (sound.mappers selected (among isSelected)).declared
    obtain ⟨callee, isCallee, _, _, _, _, _, calleeIsOf⟩ := forall₂_left renders selected (among isSelected)
    refine ⟨callee, isCallee, ?held, ?method, ?count, fun _ => ?first, ?further⟩
    case held =>
      rw [isOf.fields, calleeIsOf.name, ← sameField]
      exact List.mem_map_of_mem isSelected
    case method =>
      rw [calleeIsOf.signature, ← sameMethod]
      exact (Mapper.mappingMethod_declares selectedDeclared).name.symm
    case count =>
      rw [handsOn.count, isCalled.count, List.length_map, calleeIsOf.signature]
      exact (Mapper.mappingMethod_declares selectedDeclared).params.length_eq.symm
    case first =>
      obtain ⟨value, isFirst, lends⟩ := handsOn.first
      exact ⟨value, isFirst, isLent_of_lends collected isFor lends⟩
    case further =>
      intro index positive inRange
      rw [handsOn.count, isCalled.count] at inRange
      obtain ⟨param, isParam, isArgument⟩ := isCalled.further index positive inRange
      obtain ⟨tokens, type, atPlace⟩ := Mapper.mappingMethod_param declared isParam
      exact ⟨tokens, param.name, type, isOf.signature ▸ atPlace, handsOn.further index param.name isArgument⟩

end Program

/-- Calls of included mappers lend what the called method borrows, and hand on the parameters of the calling
method at their places. -/
theorem generate_calls {text : String} {file : SourceFile} (read : SourceFile.ofText text = .ok file)
    {code : GeneratedCode} (generated : generate file = .ok code) : ∀ caller ∈ code.mappers,
      ∃ param source destination, caller.signature.Maps param source destination ∧
        ∀ call ∈ caller.body.calls, ∃ callee ∈ code.mappers,
          caller.Calls (file.items.map (·.item)) param source callee call := by
  obtain ⟨program, programRead, renders⟩ := generate_ok generated
  obtain ⟨draft, collected⟩ := Program.ofFile_isCollected (SourceFile.ofText_isSound read) programRead
  have sound := Program.ofFile_isSound (SourceFile.ofText_isRead read) programRead
  intro caller isCaller
  obtain ⟨mapper, isMapper, made⟩ := forall₂_right renders caller isCaller
  exact made.calls collected sound isMapper renders

/-- The arguments of the calls in each method, next to the names around them that are bound to lent elements. -/
def GeneratedCode.callTexts (code : GeneratedCode) : List (List (List String × List String)) :=
  code.mappers.map fun mapper => mapper.body.calls.map fun call =>
    (call.lent, call.arguments.map fun value => lexemesText value.lexemes)

/-- What is asked has an identifier in a field, identifiers in a collection and one behind a getter. -/
def askText : String :=
  "#[mapper] trait IdMapper \x7b fn map(id: &Id, tenant: &Tenant) -> Name; \x7d #[mapper] trait AskMapper " ++
    "\x7b fn map(ask: &Ask, tenant: &Tenant) -> Tell; fn new() \x7b include_mappers([IdMapper]); \x7d \x7d " ++
    "struct Tenant \x7b\x7d struct Id \x7b\x7d struct Name \x7b\x7d " ++
    "struct Ask \x7b pub by: Id, pub all: Vec<Id>, key: Id \x7d " ++
    "impl Ask \x7b pub fn key(&self) -> &Id \x7b &self.key \x7d \x7d " ++
    "struct Tell \x7b pub by: Name, pub all: Vec<Name>, pub key: Name \x7d"

/-- Each identifier is lent, and the tenant is handed on. -/
theorem generate_calls_ask : ∃ file code, SourceFile.ofText askText = .ok file ∧ generate file = .ok code ∧
    code.callTexts = [[], [([], ["& ask . by", "tenant"]), (["id"], ["id", "tenant"]),
      ([], ["ask . key ()", "tenant"])]] ∧
      ∀ caller ∈ code.mappers, ∃ param source destination, caller.signature.Maps param source destination ∧
        ∀ call ∈ caller.body.calls, ∃ callee ∈ code.mappers,
          caller.Calls (file.items.map (·.item)) param source callee call := by
  have lent : passes (fun file => passes (fun code =>
      decide (code.callTexts = [[], [([], ["& ask . by", "tenant"]), (["id"], ["id", "tenant"]),
        ([], ["ask . key ()", "tenant"])]])) (generate file)) (SourceFile.ofText askText) = true := by
    have chars : CharsOf askText _ := .append (.append (.append (.append (.append (.literal _) _) _) _) _) _
    rw [SourceFile.ofText_chars chars]
    decide +kernel
  obtain ⟨file, read, lent⟩ := passes_iff.mp lent
  obtain ⟨code, generated, lent⟩ := passes_iff.mp lent
  exact ⟨file, code, read, generated, of_decide_eq_true lent, generate_calls read generated⟩

/-- The mapper of identifiers owns what it takes, and the mapper that calls it borrows what it takes. -/
def owningText : String :=
  "#[mapper] trait IdMapper \x7b fn map(id: Id, tenant: Tenant) -> Name; \x7d #[mapper] trait AskMapper " ++
    "\x7b fn map(ask: &Ask, tenant: &Tenant) -> Tell; fn new() \x7b include_mappers([IdMapper]); \x7d \x7d " ++
    "struct Tenant \x7b\x7d struct Id \x7b\x7d struct Name \x7b\x7d struct Ask \x7b pub by: Id \x7d " ++
    "struct Tell \x7b pub by: Name \x7d"

/-- Whether the value is written as a borrow. -/
def Rendering.Value.isBorrow : Value → Bool
  | .borrowed _ | .borrowedResult _ => true
  | _ => false

theorem Rendering.DelegatedCall.lendsFirst_of_isBorrow {call : DelegatedCall}
    (isBorrow : call.arguments.head?.any (·.isBorrow) = true) (items : List Item) (param source : String) :
    call.LendsFirst items param source := by
  cases isFirst : call.arguments.head? with
  | none =>
      rw [isFirst] at isBorrow
      cases isBorrow
  | some value =>
      rw [isFirst] at isBorrow
      refine ⟨value, isFirst, ?_⟩
      cases value with
      | borrowed value => exact .borrowed value
      | borrowedResult value => exact .borrowedResult value
      | _ => cases isBorrow

theorem Source.Signature.BorrowsFirst.isReference {signature : Signature} (borrows : signature.BorrowsFirst) :
    ((typedInputs signature).map (·.2.isReference)).head? = some true := by
  obtain ⟨pattern, type, others, inputs, isShared⟩ := borrows
  rw [inputs]
  cases type with
  | reference => rfl
  | _ => cases isShared

/-- The call of the mapper of identifiers borrows the identifier and hands on the reference to the tenant. -/
theorem owningText_calls : ∃ file code, SourceFile.ofText owningText = .ok file ∧ generate file = .ok code ∧
    ∃ caller ∈ code.mappers, ∃ callee ∈ code.mappers, ∃ call ∈ caller.body.calls,
      ⟨call.field, callee.name⟩ ∈ caller.fields ∧ callee.signature.name = call.method ∧
        call.arguments.head?.any (·.isBorrow) = true ∧ call.arguments.length = 2 ∧
          (typedInputs caller.signature).map (·.2.isReference) = [true, true] ∧
            (typedInputs callee.signature).map (·.2.isReference) = [false, false] := by
  have found : passes (fun file => passes (fun code => code.mappers.any fun caller => code.mappers.any fun callee =>
      caller.body.calls.any fun call => decide (⟨call.field, callee.name⟩ ∈ caller.fields ∧
        callee.signature.name = call.method ∧ call.arguments.head?.any (·.isBorrow) = true ∧
          call.arguments.length = 2 ∧ (typedInputs caller.signature).map (·.2.isReference) = [true, true] ∧
            (typedInputs callee.signature).map (·.2.isReference) = [false, false])) (generate file))
      (SourceFile.ofText owningText) = true := by
    have chars : CharsOf owningText _ := .append (.append (.append (.literal _) _) _) _
    rw [SourceFile.ofText_chars chars]
    decide +kernel
  obtain ⟨file, read, found⟩ := passes_iff.mp found
  obtain ⟨code, generated, found⟩ := passes_iff.mp found
  obtain ⟨caller, isCaller, found⟩ := List.any_eq_true.mp found
  obtain ⟨callee, isCallee, found⟩ := List.any_eq_true.mp found
  obtain ⟨call, isCall, found⟩ := List.any_eq_true.mp found
  exact ⟨file, code, read, generated, caller, isCaller, callee, isCallee, call, isCall, of_decide_eq_true found⟩

/-- A call can lend what the called method takes as its own, and a parameter that the caller borrows can be handed
on where the called method takes it as its own. -/
theorem generate_callsOwning :
    (¬∀ (text : String) (file : SourceFile) (code : GeneratedCode), SourceFile.ofText text = .ok file →
      generate file = .ok code → ∀ caller ∈ code.mappers, ∃ param source destination,
        caller.signature.Maps param source destination ∧ ∀ call ∈ caller.body.calls, ∀ callee ∈ code.mappers,
          ⟨call.field, callee.name⟩ ∈ caller.fields → callee.signature.name = call.method →
            (call.LendsFirst (file.items.map (·.item)) param source ↔ callee.signature.BorrowsFirst)) ∧
      ¬∀ (text : String) (file : SourceFile) (code : GeneratedCode), SourceFile.ofText text = .ok file →
        generate file = .ok code → ∀ caller ∈ code.mappers, ∀ call ∈ caller.body.calls, ∀ callee ∈ code.mappers,
          ⟨call.field, callee.name⟩ ∈ caller.fields → callee.signature.name = call.method →
            ∀ index, 0 < index → index < call.arguments.length →
              ((typedInputs caller.signature).map (·.2.isReference))[index]? =
                ((typedInputs callee.signature).map (·.2.isReference))[index]? := by
  obtain ⟨file, code, read, generated, caller, isCaller, callee, isCallee, call, isCall, held, named, isBorrow, count,
    callerBorrows, calleeOwns⟩ := owningText_calls
  refine ⟨fun agrees => ?first, fun agrees => ?further⟩
  case first =>
    obtain ⟨param, source, _, _, agrees⟩ := agrees owningText file code read generated caller isCaller
    have lends := DelegatedCall.lendsFirst_of_isBorrow isBorrow (file.items.map (·.item)) param source
    have borrows := ((agrees call isCall callee isCallee held named).mp lends).isReference
    rw [calleeOwns] at borrows
    cases borrows
  case further =>
    have same := agrees owningText file code read generated caller isCaller call isCall callee isCallee held named 1
      (by decide) (by rw [count]; decide)
    rw [callerBorrows, calleeOwns] at same
    cases same

end ObjectMapping
