/-
This file proves that a mapping method carries out each assignment of its plan once: a struct literal takes the
own fields, and what it leaves follows in the order of the plan.
-/

import ObjectMapping.Proofs.Host.OwnFields
import ObjectMapping.Proofs.Program.Rendered
import ObjectMapping.Proofs.Rendering.Lexemes
import ObjectMapping.Proofs.Resolution.Access

namespace ObjectMapping

open Rendering

/-- What is assigned are members of the destination, each as what it is. -/
theorem MappingTask.assignments_kinds (task : MappingTask) : ∀ assignment ∈ task.resolve.plan.assignments,
    ∃ member ∈ task.destinationStruct.members, member.name = assignment.member ∧ member.kind = assignment.kind := by
  intro assignment present
  obtain ⟨member, isMember, named, kind, _⟩ := task.assignments_settable assignment present
  exact ⟨member, isMember, named, kind⟩

namespace Rendering

/-- The members that the destination is created with a value for. -/
def Creation.given : Creation → List String
  | .literal _ fields => (fields.filter (·.value.isSome)).map (·.field)
  | .call _ _ _ => []

/-- The members that a body gives a value, in its order. -/
def Body.given (body : Body) : List String := body.creation.given ++ body.writes.map (·.member)

namespace Scope

section

variable (scope : Scope) (plan : Plan)

/-- A field of the struct literal: the member gets what the plan assigns to it, and else its default. -/
inductive Initializes (member : Member) : FieldValue → Prop
  | assigned (assignment : MemberAssignment) (value : Value) (present : assignment ∈ plan.assignments)
      (named : assignment.member = member.name) (rendered : scope.value assignment.expr = .ok value) :
      Initializes member ⟨member.name, some value⟩
  | defaulted (unassigned : ∀ assignment ∈ plan.assignments, assignment.member ≠ member.name) :
      Initializes member ⟨member.name, none⟩

/-- An assignment as a statement: a field is written, and for a property its setter is called. -/
inductive Performs (assignment : MemberAssignment) : Write → Prop
  | field (value : Value) (kind : assignment.kind = .field) (rendered : scope.value assignment.expr = .ok value) :
      Performs assignment (.field assignment.member value)
  | property (value : Value) (kind : assignment.kind = .property)
      (rendered : scope.value assignment.expr = .ok value) :
      Performs assignment (.property assignment.member value)

/-- A struct literal initializes all own fields and the other assignments follow it; a call is followed by all
assignments. -/
inductive Emits (call : ConstructorPlan) (destination : TypeDescriptor × StructType) : Body → Prop
  | literal (fields : List FieldValue) (writes : List Write) (isLiteral : call.constructor = .literal)
      (own : List.Forall₂ (scope.Initializes plan) destination.2.ownFields fields)
      (others : List.Forall₂ scope.Performs
        (plan.assignments.filter fun assignment => assignment.member ∉ fields.map (·.field)) writes) :
      Emits call destination ⟨.literal destination.1.ident fields, writes⟩
  | call (function : String) (parameters : List Parameter) (arguments : List Value) (writes : List Write)
      (isFunction : call.constructor = .function function parameters)
      (rendered : List.Forall₂ (fun argument value => scope.value argument.expr = .ok value) call.arguments
        arguments)
      (all : List.Forall₂ scope.Performs plan.assignments writes) :
      Emits call destination ⟨.call destination.1.ident function arguments, writes⟩

/-- A body that carries out each assignment of the plan once. -/
structure EmitsOnce (call : ConstructorPlan) (destination : TypeDescriptor × StructType) (body : Body) : Prop where
  emits : scope.Emits plan call destination body
  /-- The members of the destination stand in the order of their ranks. -/
  ranked : destination.2.members.map (·.rank) = List.range destination.2.members.length
  distinct : (destination.2.members.map (·.name)).Nodup
  /-- What is assigned are members of the destination, each written as what it is. -/
  assigned : ∀ assignment ∈ plan.assignments, ∃ member ∈ destination.2.members,
    member.name = assignment.member ∧ member.kind = assignment.kind
  /-- Inherited members and properties alone are left to the writes behind a struct literal. -/
  left : call.constructor = .literal → ∀ write ∈ body.writes, ∃ member ∈ destination.2.members,
    member.name = write.member ∧ (member.inherited = true ∨ member.kind = .property)
  /-- No assignment is lost, and none is made twice or in both places. -/
  once : (plan.assignments.map (·.member)).Nodup ∧ body.given.Perm (plan.assignments.map (·.member))

end

variable {scope : Scope} {plan : Plan} {call : ConstructorPlan} {destination : TypeDescriptor × StructType}

theorem fieldValue_initializes {member : Member} {entry : FieldValue}
    (made : scope.fieldValue plan member = .ok entry) : scope.Initializes plan member entry := by
  obtain ⟨_, ⟨assignment, value, found, rendered, rfl⟩ | ⟨missing, rfl⟩⟩ := scope.fieldValue_made made
  · have named : assignment.member = member.name := by simpa using List.find?_some found
    exact .assigned assignment value (List.mem_of_find?_eq_some found) named rendered
  · exact .defaulted fun assignment present => by simpa using List.find?_eq_none.mp missing assignment present

theorem write_performs {assignment : MemberAssignment} {write : Write}
    (made : scope.write assignment = .ok write) : scope.Performs assignment write := by
  obtain ⟨_, value, rendered, ⟨kind, rfl⟩ | ⟨kind, _, rfl⟩⟩ := scope.write_made made
  · exact .field value kind rendered
  · exact .property value kind rendered

theorem writes_perform {assignments : List MemberAssignment} {writes : List Write}
    (made : assignments.mapM scope.write = .ok writes) : List.Forall₂ scope.Performs assignments writes :=
  ((mapM_ok _ _ _).mp made).imp fun _ _ => write_performs

/-- Writes are to the members of their assignments. -/
theorem performs_members {assignments : List MemberAssignment} {writes : List Write}
    (performed : List.Forall₂ scope.Performs assignments writes) :
    writes.map (·.member) = assignments.map (·.member) := by
  refine forall₂_map_eq performed ?_
  rintro assignment write (_ | _) <;> rfl

theorem initializes_fields {members : List Member} {fields : List FieldValue}
    (own : List.Forall₂ (scope.Initializes plan) members fields) :
    fields.map (·.field) = members.map (·.name) := by
  refine forall₂_map_eq own ?_
  rintro member entry (_ | _) <;> rfl

/-- The fields with a value are those that the plan assigns. -/
theorem initializes_given {type : String} {members : List Member} {fields : List FieldValue}
    (own : List.Forall₂ (scope.Initializes plan) members fields) (name : String) :
    name ∈ (Creation.literal type fields).given ↔
      name ∈ plan.assignments.map (·.member) ∧ name ∈ fields.map (·.field) := by
  constructor
  · intro given
    obtain ⟨entry, hasValue, rfl⟩ := List.mem_map.mp given
    obtain ⟨isEntry, hasValue⟩ := List.mem_filter.mp hasValue
    obtain ⟨member, _, initialized⟩ := forall₂_right own entry isEntry
    refine ⟨?_, List.mem_map_of_mem isEntry⟩
    cases initialized with
    | assigned assignment value present named => exact named ▸ List.mem_map_of_mem present
    | defaulted => cases hasValue
  · rintro ⟨isAssigned, isField⟩
    obtain ⟨entry, isEntry, rfl⟩ := List.mem_map.mp isField
    obtain ⟨assignment, present, named⟩ := List.mem_map.mp isAssigned
    obtain ⟨member, _, initialized⟩ := forall₂_right own entry isEntry
    refine List.mem_map_of_mem (List.mem_filter.mpr ⟨isEntry, ?_⟩)
    cases initialized with
    | assigned => rfl
    | defaulted unassigned => exact absurd named (unassigned assignment present)

/-- With the literal for some of the assigned members and writes for the others, each is given once. -/
theorem literal_given {type : String} {members : List Member} {fields : List FieldValue} {writes : List Write}
    (distinct : (members.map (·.name)).Nodup) (once : (plan.assignments.map (·.member)).Nodup)
    (own : List.Forall₂ (scope.Initializes plan) members fields)
    (others : List.Forall₂ scope.Performs
      (plan.assignments.filter fun assignment => assignment.member ∉ fields.map (·.field)) writes) :
    (Body.mk (.literal type fields) writes).given.Perm (plan.assignments.map (·.member)) := by
  have isWritten (name : String) : name ∈ writes.map (·.member) ↔
      name ∈ plan.assignments.map (·.member) ∧ name ∉ fields.map (·.field) := by
    rw [performs_members others]
    constructor
    · intro written
      obtain ⟨assignment, later, rfl⟩ := List.mem_map.mp written
      obtain ⟨present, notField⟩ := List.mem_filter.mp later
      exact ⟨List.mem_map_of_mem present, of_decide_eq_true notField⟩
    · rintro ⟨isAssigned, notField⟩
      obtain ⟨assignment, present, rfl⟩ := List.mem_map.mp isAssigned
      exact List.mem_map_of_mem (List.mem_filter.mpr ⟨present, decide_eq_true notField⟩)
  have fieldsOnce : (Creation.literal type fields).given.Nodup := by
    rw [← initializes_fields own] at distinct
    exact distinct.sublist (List.filter_sublist.map _)
  have writesOnce : (writes.map (·.member)).Nodup := by
    rw [performs_members others]
    exact once.sublist (List.filter_sublist.map _)
  have apart : (Creation.literal type fields).given.Disjoint (writes.map (·.member)) := by
    intro name given written
    exact ((isWritten name).mp written).2 ((initializes_given own name).mp given).2
  refine (List.perm_ext_iff_of_nodup (fieldsOnce.append writesOnce apart) once).mpr fun name => ?_
  change name ∈ (Creation.literal type fields).given ++ writes.map (·.member) ↔ _
  rw [List.mem_append, initializes_given own, isWritten, ← and_or_left, and_iff_left (Classical.em _)]

theorem isLiteralField_iff (member : Member) : isLiteralField member = true ↔ member.IsOwnField := by
  simp [isLiteralField, Member.IsOwnField]

theorem ownFields_eq (type : StructType) : type.members.filter isLiteralField = type.ownFields :=
  List.filter_congr fun member _ => by rw [Bool.eq_iff_iff, isLiteralField_iff, decide_eq_true_iff]

/-- The assignments behind a struct literal are those to what is no own field. -/
theorem isWrittenLater_iff {type : StructType} {id : TypeId} (laidOut : type.IsLaidOut id) {member : Member}
    (isMember : member ∈ type.members) {assignment : MemberAssignment} (named : member.name = assignment.member) :
    isWrittenLater type assignment = true ↔ assignment.member ∉ type.ownFields.map (·.name) := by
  rw [isWrittenLater, ← named, laidOut.member? member isMember, Option.any_some, Bool.not_eq_true',
    ← Bool.not_eq_true, isLiteralField_iff, not_iff_not]
  constructor
  · intro isOwn
    exact List.mem_map_of_mem (StructType.mem_ownFields.mpr ⟨isMember, isOwn⟩)
  · intro isField
    obtain ⟨other, isOther, sameName⟩ := List.mem_map.mp isField
    obtain ⟨present, isOwn⟩ := StructType.mem_ownFields.mp isOther
    rwa [← List.inj_on_of_nodup_map laidOut.distinct present isMember sameName]

section

variable {id : TypeId} (laidOut : destination.2.IsLaidOut id)
  (assigned : ∀ assignment ∈ plan.assignments, ∃ member ∈ destination.2.members,
    member.name = assignment.member ∧ member.kind = assignment.kind)
include laidOut assigned

theorem bodyWith_emits {body : Body} (made : scope.bodyWith plan call destination = .ok body) :
    scope.Emits plan call destination body := by
  obtain ⟨_, ⟨isLiteral, fields, writes, fieldsMade, writesMade, rfl⟩ |
    ⟨function, parameters, arguments, writes, isFunction, _, argumentsMade, writesMade, rfl⟩⟩ :=
      scope.bodyWith_made made
  · rw [ownFields_eq] at fieldsMade
    have own : List.Forall₂ (scope.Initializes plan) destination.2.ownFields fields :=
      ((mapM_ok _ _ _).mp fieldsMade).imp fun _ _ => fieldValue_initializes
    refine .literal fields writes isLiteral own ?_
    have others : plan.assignments.filter (isWrittenLater destination.2) =
        plan.assignments.filter fun assignment => assignment.member ∉ fields.map (·.field) := by
      refine List.filter_congr fun assignment present => ?_
      obtain ⟨member, isMember, named, _⟩ := assigned assignment present
      rw [Bool.eq_iff_iff, isWrittenLater_iff laidOut isMember named, initializes_fields own,
        decide_eq_true_iff]
    exact others ▸ writes_perform writesMade
  · exact .call function parameters arguments writes isFunction ((mapM_ok _ _ _).mp argumentsMade)
      (writes_perform writesMade)

theorem bodyWith_emitsOnce (once : (plan.assignments.map (·.member)).Nodup) {body : Body}
    (made : scope.bodyWith plan call destination = .ok body) : scope.EmitsOnce plan call destination body := by
  have emits := bodyWith_emits laidOut assigned made
  refine ⟨emits, laidOut.ranks, laidOut.distinct, assigned, ?left, once, ?given⟩
  case left =>
    intro isLiteral write isWrite
    cases emits with
    | call function _ _ _ isFunction =>
        rw [isLiteral] at isFunction
        cases isFunction
    | literal fields writes _ own others =>
        have written := List.mem_map_of_mem (f := (·.member)) isWrite
        rw [performs_members others] at written
        obtain ⟨assignment, later, named⟩ := List.mem_map.mp written
        obtain ⟨present, notField⟩ := List.mem_filter.mp later
        obtain ⟨member, isMember, sameName, _⟩ := assigned assignment present
        refine ⟨member, isMember, sameName.trans named, Member.inherited_or_property fun isOwn => ?_⟩
        rw [initializes_fields own] at notField
        have isField := List.mem_map_of_mem (f := (·.name)) (StructType.mem_ownFields.mpr ⟨isMember, isOwn⟩)
        exact of_decide_eq_true notField (sameName ▸ isField)
  case given =>
    cases emits with
    | call function _ arguments writes _ _ all =>
        rw [← performs_members all]
        exact .refl _
    | literal fields writes _ own others =>
        have ownDistinct : (destination.2.ownFields.map (·.name)).Nodup :=
          laidOut.distinct.sublist (List.filter_sublist.map _)
        exact literal_given ownDistinct once own others

end

end Scope

end Rendering

namespace Program

variable {program : Program}

/-- The code implements the struct of the mapper, and its method is written with a body that carries out each
assignment of the plan once. -/
def EmitsOnce (program : Program) (mapper : Mapper) (code : List Source.Lexeme) : Prop :=
  ∃ included resolution call id destination body bodyCode before after,
    mapper.Includes included ∧ included ⊆ program.mappers ∧
      (request mapper included).resolve program.host.schema = .ok resolution ∧
        resolution.plan.constructor = some call ∧ mapper.method.result = .named id ∧
          program.host.schema.expectStruct id = .ok destination ∧
            (Scope.mk program.host mapper.method.params).EmitsOnce resolution.plan call destination body ∧
              body.WrittenAs bodyCode ∧
                Implements mapper.name (before ++ methodCode mapper.signature bodyCode ++ after) code

theorem Makes.emitsOnce (built : ∃ draft, SchemaDraft.build draft = .ok program.host.schema) {mapper : Mapper}
    (sound : mapper.IsSound program.host) {rendered : RenderedMapper} (makes : program.Makes mapper rendered) :
    program.EmitsOnce mapper rendered.code := by
  obtain ⟨included, task, call, id, includes, among, accepted, _, planned, isResult, found, isStruct, bodyMade⟩ :=
    makes.body
  obtain ⟨draft, built⟩ := built
  have laidOut := draft.build_struct _ built id task.destination _ found isStruct
  have emits := Scope.bodyWith_emitsOnce laidOut task.assignments_kinds
    (task.assignments_sublist.nodup laidOut.distinct) bodyMade
  obtain ⟨_, _, _, _, _, isOf⟩ := makes.renders
  have implements := rendered.code_implements (isOf.name ▸ isUsable_of_isName sound.name)
  rw [rendered.method_written (isOf.signature ▸ isUsable_of_isName sound.signature.name.spelt), isOf.name,
    isOf.signature] at implements
  exact ⟨included, task.resolve, call, id, (task.destination, task.destinationStruct), rendered.body, _, _, _,
    includes, among, ((request mapper included).resolve_ok _ _).mpr ⟨task, accepted, rfl⟩, planned, isResult,
    (Schema.expectStruct_ok _ _ _ _).mpr ⟨found, isStruct⟩, emits, Scope.bodyWith_isWritten _ bodyMade, implements⟩

end Program

/-- Generated code carries out the plan of each mapper, every assignment once. -/
theorem generate_emitsOnce {text : String} {file : Source.SourceFile}
    (parsed : Source.SourceFile.ofText text = .ok file) {code : GeneratedCode} (generated : generate file = .ok code) :
    ∃ program, Program.ofFile file = .ok program ∧ program.IsWritten program.EmitsOnce code.lexemes := by
  obtain ⟨program, read, written⟩ := generate_written parsed generated
  refine ⟨program, read, written program.EmitsOnce fun mapper rendered sound makes => ?_⟩
  exact makes.emitsOnce (Program.ofFile_built read) sound

/-- A row has its number from a base, one of its fields is ignored and its name stands behind a setter. -/
def rowText : String :=
  "#[mapper] trait ToRow \x7b fn map(user: &User) -> Row; fn new() \x7b ignore_member(|row| row.note); \x7d \x7d " ++
    "struct User \x7b pub id: u8, pub age: u8, pub name: u8 \x7d struct Base \x7b pub id: u8 \x7d " ++
    "struct Row \x7b pub base: Base, pub age: u8, pub note: u8 \x7d " ++
    "impl Deref for Row \x7b type Target = Base; \x7d impl Row \x7b pub fn set_name(&mut self, name: u8) \x7b\x7d \x7d"

/-- The literal gets the age, and what is left follows in the order of the members. -/
theorem generate_emitsOnce_row : ∃ file code program, Source.SourceFile.ofText rowText = .ok file ∧
    generate file = .ok code ∧ code.mappers.map (·.body.given) = [["age", "id", "name"]] ∧
      Program.ofFile file = .ok program ∧ program.IsWritten program.EmitsOnce code.lexemes := by
  have given : passes (fun file => passes (fun code =>
      decide (code.mappers.map (·.body.given) = [["age", "id", "name"]])) (generate file))
      (Source.SourceFile.ofText rowText) = true := by
    have chars : Source.CharsOf rowText _ := .append (.append (.append (.literal _) _) _) _
    rw [Source.SourceFile.ofText_chars chars]
    decide +kernel
  obtain ⟨file, read, given⟩ := passes_iff.mp given
  obtain ⟨code, generated, given⟩ := passes_iff.mp given
  obtain ⟨program, programRead, emits⟩ := generate_emitsOnce read generated
  exact ⟨file, code, program, read, generated, of_decide_eq_true given, programRead, emits⟩

end ObjectMapping
