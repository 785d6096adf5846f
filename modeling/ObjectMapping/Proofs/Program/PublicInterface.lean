/-
This file proves that generated code touches nothing but the public interface of the structs that it maps
between: visibility is kept from the declarations over the schema and the plan to what is written out.
-/

import ObjectMapping.Proofs.Host.Collected
import ObjectMapping.Proofs.Program.Rendered
import ObjectMapping.Proofs.Resolution.Access
import ObjectMapping.Proofs.Source.File

namespace ObjectMapping

open Host Rendering Source

/-- The method takes a struct, by value or borrowed, as its first parameter and gives another. -/
structure Source.Signature.Maps (signature : Signature) (param source destination : String) : Prop where
  source : ∃ tokens type others, typedInputs signature = (.name tokens param, type) :: others ∧
    type.behindBorrow.named? = some source
  destination : ∃ type, signature.result = some type ∧ type.named? = some destination

namespace Rendering

section

variable (items : List Item)

/-- The destination is created from outside by a struct literal that names public fields only, or by a public
function. -/
inductive Creation.IsPublic (destination : String) : Creation → Prop
  | literal (fields : List FieldValue) (declared : ∃ declared, DeclaresStruct items destination declared)
      (allPublic : ∀ declared, DeclaresStruct items destination declared →
        ∀ field ∈ declared, field.isPublic = true) : IsPublic destination (.literal destination fields)
  | call (function : String) (arguments : List Value) (has : HasConstructor items destination function) :
      IsPublic destination (.call destination function arguments)

/-- The body of a method reads, writes and creates what is open to others only. -/
structure Body.TouchesPublic (param source destination : String) (body : Body) : Prop where
  reads : ∀ owner member kind, .place owner member kind ∈ body.parts →
    owner = param ∧ LetsRead items source member kind
  writes : ∀ write ∈ body.writes, LetsWrite items destination write.member write.kind
  creation : body.creation.IsPublic items destination

end

/-- What carries out a plan touches as much of the structs as their types permit. -/
theorem Scope.CarriesOut.touchesPublic {items : List Item} {task : MappingTask}
    (source : KeepsTo items task.source.ident task.sourceStruct)
    (destination : KeepsTo items task.destination.ident task.destinationStruct) {scope : Scope}
    {call : ConstructorPlan} (planned : task.resolve.plan.constructor = some call) {body : Body}
    (carries : scope.CarriesOut task.resolve.plan call (task.destination, task.destinationStruct) body) :
    body.TouchesPublic items task.sourceParam task.source.ident task.destination.ident := by
  refine ⟨?reads, ?writes, ?creation⟩
  case reads =>
    intro owner name kind isPart
    obtain ⟨value, isPlanned, type, isRead⟩ := carries.parts _ isPart
    obtain ⟨member, present, readable, same⟩ := task.resolve_makesParts value isPlanned _ isRead
    cases same
    exact ⟨rfl, source.reads member present readable⟩
  case writes =>
    intro write isWrite
    obtain ⟨assignment, present, sameMember, sameKind, _⟩ := carries.writes write isWrite
    obtain ⟨member, isMember, named, kind, settable⟩ := task.assignments_settable assignment present
    rw [sameMember, sameKind, ← named, ← kind]
    exact destination.writes member isMember settable
  case creation =>
    have offered := MappingTask.constructor_offered planned
    have created := carries.creation
    generalize body.creation = creation at created ⊢
    cases created with
    | literal fields isLiteral =>
        rw [isLiteral] at offered
        exact .literal fields destination.declared (destination.literal offered)
    | call function parameters arguments isFunction =>
        rw [isFunction] at offered
        exact .call function arguments (destination.functions function parameters offered)

end Rendering

theorem TypeRef.behindBorrow_ofWritten (names : TypeNames) (type : WrittenType) :
    behindBorrow names type = ofWritten names type.behindBorrow := by
  cases type <;> rfl

namespace Mapper

theorem methodParam_ok {host : Host} {pattern : Pattern} {type : WrittenType} {param : Parameter}
    (read : methodParam host pattern type = .ok param) : ∃ tokens, pattern = .name tokens param.name ∧
      TypeRef.ofWritten host.names type.behindBorrow = param.type := by
  unfold methodParam at read
  split at read
  · cases read
    exact ⟨_, rfl, (TypeRef.behindBorrow_ofWritten host.names type).symm⟩
  · cases read

/-- The signature of a mapping method names the structs that its types stand for. -/
theorem mappingMethod_maps {items : List Item} {host : Host} {draft : SchemaDraft}
    (collected : IsCollected items host draft) {signature : Signature} {method : MapperMethod}
    (declared : mappingMethod host signature = .ok method) {task : MappingTask} {included : List IncludedMapper}
    {mapper : String} {directives : Directives}
    (isFor : task.IsFor ⟨mapper, method, directives, included⟩ host.schema) :
    signature.Maps task.sourceParam task.source.ident task.destination.ident := by
  obtain ⟨_, _, inputs, type, isResult, resultRead⟩ := mappingMethod_declares declared
  refine ⟨?source, ?destination⟩
  case source =>
    obtain ⟨id, others, params, found, _⟩ := isFor.source
    change method.params = _ at params
    rw [params] at inputs
    obtain ⟨⟨pattern, type⟩, others, first, _, written⟩ := List.forall₂_cons_right_iff.mp inputs
    obtain ⟨tokens, rfl, read⟩ := methodParam_ok first
    obtain ⟨name, isName, isNamed⟩ := TypeRef.ofWritten_named read
    rw [collected.name_eq isNamed found] at isName
    exact ⟨tokens, type, others, written, isName⟩
  case destination =>
    obtain ⟨id, isId, found, _⟩ := isFor.destination
    obtain ⟨name, written, isNamed⟩ := TypeRef.ofWritten_named (resultRead.trans isId)
    rw [collected.name_eq isNamed found] at written
    exact ⟨type, isResult, written⟩

end Mapper

namespace Program

variable {program : Program} {file : SourceFile}

/-- The types of a program are read from all of its items. -/
theorem ofFile_host (read : ofFile file = .ok program) :
    Host.ofItems (file.items.map (·.item)) = .ok program.host := by
  obtain ⟨hostRead, _, _⟩ := ofFile_ok read
  have others : (file.items.filter fun item => (mapperTrait? item).isNone).map (·.item) =
      (file.items.map (·.item)).filter fun item => (mapperTrait? ⟨item, []⟩).isNone := by
    rw [List.filter_map]
    rfl
  rw [others, Host.ofItems_filter] at hostRead
  · exact hostRead
  · intro item isMapper
    cases item with
    | trait declared => exact ⟨declared, rfl⟩
    | struct | «enum» | impl | other => cases isMapper

theorem ofFile_isCollected (sound : ∀ item ∈ file.items, item.item.IsSound) (read : ofFile file = .ok program) :
    ∃ draft, IsCollected (file.items.map (·.item)) program.host draft :=
  ofItems_isCollected (List.forall_mem_map.mpr sound) (ofFile_host read)

/-- The code for a mapper touches the public interface of the structs in its signature. -/
theorem RendersMapper.touchesPublic {items : List Item} {draft : SchemaDraft} {mapper : Mapper}
    (collected : IsCollected items program.host draft)
    (declared : Mapper.mappingMethod program.host mapper.signature = .ok mapper.method) {rendered : RenderedMapper}
    (renders : program.RendersMapper mapper rendered) : ∃ param source destination,
      rendered.signature.Maps param source destination ∧
        rendered.body.TouchesPublic items param source destination := by
  obtain ⟨included, resolution, _, _, resolved, isOf⟩ := renders
  obtain ⟨task, accepted, rfl⟩ := ((request mapper included).resolve_ok _ _).mp resolved
  have isFor := Request.toTask_ok _ _ _ accepted
  obtain ⟨_, _, _, sourceFound, sourceStruct⟩ := isFor.source
  obtain ⟨id, isResult, found, isStruct⟩ := isFor.destination
  obtain ⟨call, other, ⟨descriptor, type⟩, planned, otherResult, isDestination, carries⟩ := isOf.body
  obtain rfl : id = other := TypeRef.named.inj (isResult.symm.trans otherResult)
  rw [(Schema.expectStruct_ok _ _ _ _).mpr ⟨found, isStruct⟩] at isDestination
  cases isDestination
  refine ⟨task.sourceParam, task.source.ident, task.destination.ident, ?_, ?_⟩
  · rw [isOf.signature]
    exact Mapper.mappingMethod_maps collected declared isFor
  · exact carries.touchesPublic (collected.keepsTo sourceFound sourceStruct) (collected.keepsTo found isStruct) planned

end Program

/-- Generated code reads public fields and calls public getters of the source or of a struct on its chain of
dereferences; it writes public fields and calls public setters of the destination or of a struct on its chain; and
it creates the destination by a public function, or by a struct literal if all fields of the destination are
public. -/
theorem generate_touchesPublic {text : String} {file : SourceFile} (read : SourceFile.ofText text = .ok file)
    {code : GeneratedCode} (generated : generate file = .ok code) : ∀ mapper ∈ code.mappers,
      ∃ param source destination, mapper.signature.Maps param source destination ∧
        mapper.body.TouchesPublic (file.items.map (·.item)) param source destination := by
  have sound := SourceFile.ofText_isSound read
  obtain ⟨program, programRead, renders⟩ := generate_ok generated
  obtain ⟨draft, collected⟩ :=
    ofItems_isCollected (List.forall_mem_map.mpr sound) (Program.ofFile_host programRead)
  intro rendered isRendered
  obtain ⟨mapper, isMapper, made⟩ := forall₂_right renders rendered isRendered
  have programSound := Program.ofFile_isSound (SourceFile.ofText_isRead read) programRead
  exact made.touchesPublic collected (programSound.mappers mapper isMapper).declared

/-- What each method writes to its destination once it exists, by kind and name. -/
def GeneratedCode.writes (code : GeneratedCode) : List (List (MemberKind × String)) :=
  code.mappers.map fun mapper => mapper.body.writes.map fun write => (write.kind, write.member)

/-- A user has a private age behind a getter and dereferences to a base, whose number is public. A row has a
private number behind a setter. -/
def userText : String :=
  "#[mapper] trait ToRow \x7b fn map(user: &User) -> Row; \x7d struct Base \x7b pub id: u8 \x7d " ++
    "struct User \x7b age: u8 \x7d impl Deref for User \x7b type Target = Base; \x7d " ++
    "impl User \x7b pub fn age(&self) -> u8 \x7b\x7d \x7d struct Row \x7b id: u8, pub age: u8 \x7d " ++
    "impl Row \x7b pub fn new() -> Row \x7b\x7d pub fn set_id(&mut self, id: u8) \x7b\x7d \x7d"

/-- The row gets both through the public interface. -/
theorem generate_touchesPublic_user : ∃ file code, SourceFile.ofText userText = .ok file ∧
    generate file = .ok code ∧ code.writes = [[(.property, "id"), (.field, "age")]] ∧
      ∀ mapper ∈ code.mappers, ∃ param source destination, mapper.signature.Maps param source destination ∧
        mapper.body.TouchesPublic (file.items.map (·.item)) param source destination := by
  have written : passes (fun file => passes (fun code =>
      decide (code.writes = [[(.property, "id"), (.field, "age")]])) (generate file))
      (SourceFile.ofText userText) = true := by
    have chars : CharsOf userText _ := .append (.append (.append (.literal _) _) _) _
    rw [SourceFile.ofText_chars chars]
    decide +kernel
  obtain ⟨file, read, written⟩ := passes_iff.mp written
  obtain ⟨code, generated, written⟩ := passes_iff.mp written
  exact ⟨file, code, read, generated, of_decide_eq_true written, generate_touchesPublic read generated⟩

end ObjectMapping
