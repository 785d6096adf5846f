/-
This file proves that source members which the destination does not ask for have no influence. They may stand
anywhere among the members of the source and of its bases: other members get other ranks, and nothing else changes.
-/

import ObjectMapping.Proofs.Renumbering.Resolution
import ObjectMapping.Proofs.Schema.Description

namespace ObjectMapping

/-- A member or a parameter of a constructor has the name, or one that differs from it in case only. -/
def StructType.AsksFor (type : StructType) (name : String) : Prop :=
  (∃ member ∈ type.members, Text.lower member.name = Text.lower name) ∨
    ∃ constructor ∈ type.constructors, ∃ parameter ∈ constructor.parameters,
      Text.lower parameter.name = Text.lower name

instance (type : StructType) (name : String) : Decidable (type.AsksFor name) :=
  inferInstanceAs (Decidable (_ ∨ _))

/-- The struct that a request maps to. -/
def Request.destinationStruct? (request : Request) (schema : Schema) : Option StructType :=
  match request.method.result with
  | .named id => (schema.get? id).bind (·.struct?)
  | _ => none

/-- Members in their order, and further ones with new names at any positions. -/
inductive MembersInserted (isNew : String → Prop) : List MemberSpec → List MemberSpec → Prop
  | nil : MembersInserted isNew [] []
  | kept (member : MemberSpec) {members more : List MemberSpec} (rest : MembersInserted isNew members more) :
      MembersInserted isNew (member :: members) (member :: more)
  | inserted (member : MemberSpec) (named : isNew member.name) {members more : List MemberSpec}
      (rest : MembersInserted isNew members more) : MembersInserted isNew members (member :: more)

structure StructDefinition.Extends (isNew : String → Prop) (definition other : StructDefinition) : Prop where
  base : other.base = definition.base
  members : MembersInserted isNew definition.members other.members
  constructors : other.constructors = definition.constructors

inductive Definition.Extends (isNew : String → Prop) : Definition → Definition → Prop
  | enum (variants : List String) : Extends isNew (.enum variants) (.enum variants)
  | struct (definition other : StructDefinition) (extended : definition.Extends isNew other) :
      Extends isNew (.struct definition) (.struct other)

structure Slot.Extends (isNew : String → Prop) (slot other : Slot) : Prop where
  ident : other.ident = slot.ident
  definition : Option.Rel (Definition.Extends isNew) slot.definition other.definition

/-- The same names with the same definitions, apart from members that have been inserted. -/
def SchemaDraft.Extends (isNew : String → Prop) (before after : SchemaDraft) : Prop :=
  List.Forall₂ (Slot.Extends isNew) before.slots after.slots

/-- What becomes of a type when members are inserted before it is built. -/
inductive TypeKind.Extends (isNew : String → Prop) : TypeKind → TypeKind → Prop
  | enum (variants : List String) : Extends isNew (.enum variants) (.enum variants)
  | struct (type other : StructType)
      (members : MembersInserted isNew (type.members.map (·.toMemberSpec)) (other.members.map (·.toMemberSpec)))
      (constructors : other.constructors = type.constructors) : Extends isNew (.struct type) (.struct other)

section

variable {isNew : String → Prop}

namespace MembersInserted

variable {members more others further : List MemberSpec}

theorem append (first : MembersInserted isNew members more) (second : MembersInserted isNew others further) :
    MembersInserted isNew (members ++ others) (more ++ further) := by
  induction first with
  | nil => exact second
  | kept member _ inductionHypothesis => exact .kept member inductionHypothesis
  | inserted member named _ inductionHypothesis => exact .inserted member named inductionHypothesis

/-- The first member with a property is the same, if no member with a new name has the property. -/
theorem find? (inserted : MembersInserted isNew members more) {holds : MemberSpec → Bool}
    (never : ∀ member, isNew member.name → holds member = false) : more.find? holds = members.find? holds := by
  induction inserted with
  | nil => rfl
  | kept member _ inductionHypothesis => rw [List.find?_cons, List.find?_cons, inductionHypothesis]
  | inserted member named _ inductionHypothesis =>
      rw [List.find?_cons, never member named]
      exact inductionHypothesis

/-- What is inserted into definitions is inserted into the members that they make together. -/
theorem flatMap {definitions extended : List StructDefinition}
    (each : List.Forall₂ (StructDefinition.Extends isNew) definitions extended) :
    MembersInserted isNew (definitions.flatMap (·.members)) (extended.flatMap (·.members)) := by
  induction each with
  | nil => exact .nil
  | cons ofFirst _ inductionHypothesis =>
      rw [List.flatMap_cons, List.flatMap_cons]
      exact ofFirst.members.append inductionHypothesis

end MembersInserted

theorem StructDefinition.Extends.flattened {definition other : StructDefinition}
    {bases others : List StructDefinition} (extended : definition.Extends isNew other)
    (each : List.Forall₂ (StructDefinition.Extends isNew) bases others) :
    MembersInserted isNew (definition.flattened bases) (other.flattened others) :=
  .flatMap (List.rel_reverse (.cons extended each))

namespace SchemaDraft.Extends

variable {before after : SchemaDraft} (extended : before.Extends isNew after)

include extended

theorem names : after.names = before.names := by
  obtain ⟨slots, _⟩ := before
  obtain ⟨others, _⟩ := after
  have each : List.Forall₂ (Slot.Extends isNew) slots others := extended
  unfold SchemaDraft.names
  clear extended
  induction each with
  | nil => rfl
  | cons ofSlot _ inductionHypothesis => rw [List.map_cons, List.map_cons, ofSlot.ident, inductionHypothesis]

theorem defines {id : TypeId} {definition : Definition} (defined : before.Defines id definition) :
    ∃ other, after.Defines id other ∧ definition.Extends isNew other := by
  obtain ⟨ident, atPlace⟩ := defined
  obtain ⟨inRange, isSlot⟩ := List.getElem?_eq_some_iff.mp atPlace
  have alsoInRange : id.index < after.slots.length := extended.length_eq ▸ inRange
  have ofSlot := extended.get inRange alsoInRange
  simp only [List.get_eq_getElem, isSlot] at ofSlot
  obtain ⟨_, ofDefinition⟩ := ofSlot
  dsimp only at ofDefinition
  generalize isDefined : (after.slots[id.index]).definition = found at ofDefinition
  cases ofDefinition with
  | some ofFound => exact ⟨_, defines_of_slot (List.getElem?_eq_getElem alsoInRange) isDefined, ofFound⟩

theorem bases {start : Option TypeId} {bases : List StructDefinition}
    (chain : BaseDefinitions before.Defines start bases) :
    ∃ others, BaseDefinitions after.Defines start others ∧
      List.Forall₂ (StructDefinition.Extends isNew) bases others := by
  induction chain with
  | nil => exact ⟨[], .nil, .nil⟩
  | cons base definition further defined _ inductionHypothesis =>
      obtain ⟨others, chain, each⟩ := inductionHypothesis
      obtain ⟨_, alsoDefined, ofDefinition⟩ := extended.defines defined
      cases ofDefinition with
      | struct _ other ofStruct =>
          rw [← ofStruct.base] at chain
          exact ⟨other :: others, .cons base other others alsoDefined chain, .cons ofStruct each⟩

/-- A type of the schema is there when members are inserted, at the same place and with the same name. -/
theorem get? {schema more : Schema} (built : before.build = .ok schema) (alsoBuilt : after.build = .ok more)
    {id : TypeId} {descriptor : TypeDescriptor} (found : schema.get? id = some descriptor) :
    ∃ other, more.get? id = some other ∧ other.ident = descriptor.ident ∧
      descriptor.kind.Extends isNew other.kind := by
  obtain ⟨ident, isNamed, describes⟩ := (build_describes built id descriptor).mp found
  rw [← extended.names] at isNamed
  have kept {other : TypeDescriptor} (describes : Describes after.Defines id ident other) :
      more.get? id = some other :=
    (build_describes alsoBuilt id other).mpr ⟨ident, isNamed, describes⟩
  cases describes with
  | enum variants defined =>
      obtain ⟨_, alsoDefined, ofDefinition⟩ := extended.defines defined
      cases ofDefinition
      exact ⟨_, kept (.enum variants alsoDefined), rfl, .enum variants⟩
  | struct definition bases defined chain =>
      obtain ⟨_, alsoDefined, ofDefinition⟩ := extended.defines defined
      obtain ⟨others, otherChain, each⟩ := extended.bases chain
      cases ofDefinition with
      | struct _ other ofStruct =>
          rw [← ofStruct.base] at otherChain
          refine ⟨_, kept (.struct other others alsoDefined otherChain), rfl, .struct _ _ ?_ ofStruct.constructors⟩
          rw [layOut_flattened, layOut_flattened]
          exact ofStruct.flattened each

theorem get?_struct {schema more : Schema} (built : before.build = .ok schema)
    (alsoBuilt : after.build = .ok more) {id : TypeId} {descriptor : TypeDescriptor} {type : StructType}
    (found : schema.get? id = some descriptor) (isStruct : descriptor.kind = .struct type) :
    ∃ other longer, more.get? id = some other ∧ other.ident = descriptor.ident ∧ other.kind = .struct longer ∧
      MembersInserted isNew (type.members.map (·.toMemberSpec)) (longer.members.map (·.toMemberSpec)) ∧
        longer.constructors = type.constructors := by
  obtain ⟨other, kept, sameIdent, ofKind⟩ := extended.get? built alsoBuilt found
  rw [isStruct] at ofKind
  generalize isKind : other.kind = kind at ofKind
  cases ofKind with
  | struct _ longer inserted sameConstructors =>
      exact ⟨other, longer, kept, sameIdent, isKind, inserted, sameConstructors⟩

/-- Every type keeps its name, and every enum its variants. -/
theorem mirrors {schema more : Schema} (built : before.build = .ok schema) (alsoBuilt : after.build = .ok more) :
    schema.Mirrors (.refl _) more := by
  constructor <;> intro id
  · cases found : schema.get? id with
    | some descriptor =>
        obtain ⟨other, isKept, sameIdent, _⟩ := extended.get? built alsoBuilt found
        simp [Schema.identOf, found, isKept, sameIdent]
    | none =>
        have missing := found
        rw [build_get?_none built, ← extended.names, ← build_get?_none alsoBuilt] at missing
        simp [Schema.identOf, found, missing]
  · cases found : schema.get? id with
    | some descriptor =>
        obtain ⟨other, isKept, _, ofKind⟩ := extended.get? built alsoBuilt found
        obtain ⟨_, _, kind⟩ := descriptor
        obtain ⟨_, _, otherKind⟩ := other
        cases ofKind <;> simp [Schema.variants?, TypeDescriptor.variants?, found, isKept]
    | none =>
        have missing := found
        rw [build_get?_none built, ← extended.names, ← build_get?_none alsoBuilt] at missing
        simp [Schema.variants?, found, missing]

end SchemaDraft.Extends

end

/-- What is found among the members says the same, if none with a new name can be found. -/
theorem MembersInserted.counterparts {isNew : String → Prop} {members others : List Member}
    (inserted : MembersInserted isNew (members.map (·.toMemberSpec)) (others.map (·.toMemberSpec)))
    (holds : MemberSpec → Bool) (never : ∀ spec, isNew spec.name → holds spec = false) :
    Option.Rel (Member.Counterpart (.refl _)) (members.find? fun member => holds member.toMemberSpec)
      (others.find? fun member => holds member.toMemberSpec) := by
  have same : (others.find? (holds ∘ (·.toMemberSpec))).map (·.toMemberSpec) =
      (members.find? (holds ∘ (·.toMemberSpec))).map (·.toMemberSpec) := by
    rw [← List.find?_map, ← List.find?_map]
    exact inserted.find? never
  change Option.Rel _ (members.find? (holds ∘ (·.toMemberSpec))) (others.find? (holds ∘ (·.toMemberSpec)))
  cases isFound : members.find? (holds ∘ (·.toMemberSpec)) with
  | none =>
      rw [isFound, Option.map_none, Option.map_eq_none_iff] at same
      rw [same]
      exact .none
  | some member =>
      rw [isFound, Option.map_some, Option.map_eq_some_iff] at same
      obtain ⟨other, otherFound, sameSpec⟩ := same
      rw [otherFound]
      exact .some (by rw [Member.Counterpart, MemberSpec.renumbered_refl, sameSpec])

theorem MembersInserted.refl {isNew : String → Prop} (members : List MemberSpec) :
    MembersInserted isNew members members := by
  induction members with
  | nil => exact .nil
  | cons member _ inductionHypothesis => exact .kept member inductionHypothesis

namespace MappingTask

/-- What a task and one about a longer source have in common. -/
structure SourceExtends (task other : MappingTask) : Prop where
  schemas : task.schema.Mirrors (.refl _) other.schema
  request : other.request = task.request
  source : other.source.ident = task.source.ident
  sourceParam : other.sourceParam = task.sourceParam
  destination : other.destination.ident = task.destination.ident
  members : other.destinationStruct.members = task.destinationStruct.members
  constructors : other.destinationStruct.constructors = task.destinationStruct.constructors
  inserted : MembersInserted (fun name => ¬ task.destinationStruct.AsksFor name)
    (task.sourceStruct.members.map (·.toMemberSpec)) (other.sourceStruct.members.map (·.toMemberSpec))

theorem SourceExtends.refl (task : MappingTask) : task.SourceExtends task where
  schemas := ⟨fun _ => rfl, fun _ => rfl⟩
  request := rfl
  source := rfl
  sourceParam := rfl
  destination := rfl
  members := rfl
  constructors := rfl
  inserted := .refl _

/-- The longer source answers alike to the names that the destination asks for. -/
theorem SourceExtends.mirrors {task other : MappingTask} (extended : task.SourceExtends other) :
    task.Mirrors (.refl _) other where
  schemas := extended.schemas
  request := by rw [extended.request, Request.renumbered_refl]
  source := extended.source
  sourceParam := extended.sourceParam
  destination := extended.destination
  members := by simp [extended.members]
  constructors := by simp [extended.constructors]
  named := by
    intro member present
    rw [StructType.member?_eq, StructType.member?_eq]
    refine extended.inserted.counterparts (fun spec => spec.name == member.name) fun spec isNew => ?_
    rw [beq_eq_false_iff_ne]
    intro sameName
    exact isNew (.inl ⟨member, present, by rw [sameName]⟩)
  fed := by
    intro constructor isChoice parameter isParameter
    rw [StructType.memberIgnoringCase?_eq, StructType.memberIgnoringCase?_eq]
    refine extended.inserted.counterparts (fun spec => Text.lower spec.name == Text.lower parameter.name)
      fun spec isNew => ?_
    rw [beq_eq_false_iff_ne]
    intro sameLetters
    exact isNew (.inr ⟨constructor, isChoice, parameter, isParameter, sameLetters.symm⟩)

/-- Both runs make the same: each makes the counterpart, under the same ids, of what the first makes. -/
theorem SourceExtends.resolve {task other : MappingTask} (extended : task.SourceExtends other) :
    other.resolve = task.resolve := by
  rw [extended.mirrors.resolve, ← (SourceExtends.refl task).mirrors.resolve]

end MappingTask

/-- Members that are inserted into structs, and that the destination does not ask for, leave the resolution of a
request as it is. -/
theorem Request.resolve_inserted (before after : SchemaDraft) (schema extended : Schema) (request : Request)
    (resolution : Resolution) (destination other : StructType) (built : before.build = .ok schema)
    (alsoBuilt : after.build = .ok extended) (resolved : request.resolve schema = .ok resolution)
    (isDestination : request.destinationStruct? schema = some destination)
    (isAfter : request.destinationStruct? extended = some other)
    (sameMembers : other.members = destination.members)
    (inserted : before.Extends (fun name => ¬ destination.AsksFor name) after) :
    request.resolve extended = .ok resolution := by
  obtain ⟨task, accepted, rfl⟩ := (request.resolve_ok schema resolution).mp resolved
  have isFor := request.toTask_ok schema task accepted
  obtain ⟨sourceId, others, params, sourceFound, sourceIsStruct⟩ := isFor.source
  obtain ⟨destinationId, result, destinationFound, destinationIsStruct⟩ := isFor.destination
  have mirrors := inserted.mirrors built alsoBuilt
  obtain ⟨source, sourceStruct, sourceKept, sameSource, sourceKind, insertedMembers, _⟩ :=
    inserted.get?_struct built alsoBuilt sourceFound sourceIsStruct
  obtain ⟨target, targetStruct, targetKept, sameTarget, targetKind, _, sameConstructors⟩ :=
    inserted.get?_struct built alsoBuilt destinationFound destinationIsStruct
  simp only [destinationStruct?, result, destinationFound, targetKept, Option.bind_some,
    TypeDescriptor.struct?, destinationIsStruct, targetKind, Option.some.injEq] at isDestination isAfter
  subst isDestination isAfter
  have longer : task.SourceExtends
      ⟨extended, request, source, sourceStruct, target, targetStruct, task.sourceParam⟩ :=
    ⟨isFor.sameSchema ▸ mirrors, isFor.sameRequest.symm, sameSource, rfl, sameTarget, sameMembers,
      sameConstructors, insertedMembers⟩
  have isForLonger : MappingTask.IsFor
      ⟨extended, request, source, sourceStruct, target, targetStruct, task.sourceParam⟩ request extended := by
    have sameVariants (id : TypeId) : extended.variants? id = schema.variants? id := mirrors.variants id
    refine ⟨rfl, rfl, ⟨sourceId, others, params, sourceKept, sourceKind⟩,
      ⟨destinationId, result, targetKept, targetKind⟩, ?_, ?_⟩
    · intro stated present
      rw [StructType.member?_eq, sameMembers, ← StructType.member?_eq]
      exact isFor.targets stated present
    · simp only [sameVariants]
      exact isFor.enums
  rw [← longer.resolve, resolve_ok]
  exact ⟨_, isForLonger.toTask, rfl⟩

/-- Shipments are records; what is shown of one takes its weight on construction. -/
def SchemaDraft.shipmentDraft (ofRecord ofShipment : List MemberSpec) : SchemaDraft where
  slots :=
    [⟨"Shipment", some (.struct ⟨some ⟨1⟩, ofShipment, [.literal]⟩)⟩,
      ⟨"Record", some (.struct ⟨none, ofRecord, []⟩)⟩,
      ⟨"ShipmentDto", some (.struct ⟨none,
        [.accessible "id" (.scalar .i64) .property, .accessible "label" (.scalar .string) .field],
        [.function "new" [⟨"weight", .scalar .i64⟩]]⟩)⟩]
  misplaced := []

def SchemaDraft.shipmentSchema (ofRecord ofShipment : List MemberSpec) : Schema where
  types :=
    [⟨⟨0⟩, "Shipment", .struct ⟨some ⟨1⟩, layOut ⟨0⟩ ofShipment [⟨none, ofRecord, []⟩], [.literal]⟩⟩,
      ⟨⟨1⟩, "Record", .struct ⟨none, layOut ⟨1⟩ ofRecord [], []⟩⟩,
      ⟨⟨2⟩, "ShipmentDto", .struct ⟨none, layOut ⟨2⟩
        [.accessible "id" (.scalar .i64) .property, .accessible "label" (.scalar .string) .field] [],
        [.function "new" [⟨"weight", .scalar .i64⟩]]⟩⟩]

def shipmentRequest : Request where
  mapper := "ShipmentMapper"
  method := ⟨"to_dto", [⟨"shipment", .named ⟨0⟩⟩], .named ⟨2⟩, ⟨5, 4⟩⟩
  directives := .none
  delegates := []

section

open SchemaDraft

/-- What records and shipments have, and more of it. -/
def recordMembers : List MemberSpec := [.accessible "id" (.scalar .i32) .property]

def recordMembersLonger : List MemberSpec :=
  [.accessible "height" (.scalar .i32) .property, .accessible "id" (.scalar .i32) .property]

def shipmentMembers : List MemberSpec :=
  [.accessible "Weight" (.scalar .i32) .field, .accessible "label" (.scalar .string) .field]

def shipmentMembersLonger : List MemberSpec :=
  [.accessible "Weight" (.scalar .i32) .field, .accessible "origin" (.nullable (.named ⟨1⟩)) .field,
    .accessible "label" (.scalar .string) .field, .accessible "note" (.scalar .string) .field]

/-- Members in front of those that are taken over, between them and behind them change nothing. -/
theorem shipmentRequest_inserted :
    ∃ resolution,
      shipmentRequest.resolve (shipmentSchema recordMembers shipmentMembers) = .ok resolution ∧
      resolution.diagnostics = [] ∧ resolution.plan.assignments.length = 2 ∧
      shipmentRequest.resolve (shipmentSchema recordMembersLonger shipmentMembersLonger) = .ok resolution := by
  have built : (shipmentDraft recordMembers shipmentMembers).build =
      .ok (shipmentSchema recordMembers shipmentMembers) := by decide +kernel
  have alsoBuilt : (shipmentDraft recordMembersLonger shipmentMembersLonger).build =
      .ok (shipmentSchema recordMembersLonger shipmentMembersLonger) := by decide +kernel
  refine ⟨_, rfl, by decide +kernel, by decide +kernel,
    Request.resolve_inserted _ _ _ _ shipmentRequest _ _ _ built alsoBuilt rfl rfl rfl rfl ?_⟩
  refine .cons ⟨rfl, .some (.struct _ _ ⟨rfl, ?ofShipment, rfl⟩)⟩
    (.cons ⟨rfl, .some (.struct _ _ ⟨rfl, ?ofRecord, rfl⟩)⟩
      (.cons ⟨rfl, .some (.struct _ _ ⟨rfl, .refl _, rfl⟩)⟩ .nil))
  case ofShipment =>
    exact .kept _ (.inserted _ (by decide +kernel) (.kept _ (.inserted _ (by decide +kernel) .nil)))
  case ofRecord => exact .inserted _ (by decide +kernel) (.kept _ .nil)

end

end ObjectMapping
