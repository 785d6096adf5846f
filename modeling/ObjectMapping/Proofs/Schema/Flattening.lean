/-
This file relates a struct of a built schema to its base: the members of the base come first, as they are
there, and the own ones follow. What a struct is asked for by name is in its members, and the one meant.
-/

import ObjectMapping.Proofs.Schema.BaseChain
import ObjectMapping.Proofs.Schema.Built

namespace ObjectMapping

/-- A struct as its definition and the struct of its base make it. -/
structure StructType.IsFlattened (schema : Schema) (id : TypeId) (definition : StructDefinition)
    (type : StructType) : Prop where
  base : type.base = definition.base
  constructors : type.constructors = definition.constructors
  root : type.base = none →
    type.members.map (fun member => (member.toMemberSpec, member.inherited)) =
      definition.members.map (·, false)
  derived : ∀ base, type.base = some base → ∃ descriptor baseType,
    schema.get? base = some descriptor ∧ descriptor.kind = .struct baseType ∧
      type.members.map (fun member => (member.toMemberSpec, member.inherited)) =
        baseType.members.map (fun member => (member.toMemberSpec, true)) ++ definition.members.map (·, false)
  placed : ∀ index (member : Member), type.members[index]? = some member →
    member.rank = index ∧ member.owner = id
  named : ∀ name member, type.member? name = some member ↔ member ∈ type.members ∧ member.name = name
  namedIgnoringCase : ∀ name member, type.memberIgnoringCase? name = some member ↔
    member ∈ type.members ∧ Text.lower member.name = Text.lower name ∧
      ∀ other ∈ type.members, Text.lower other.name = Text.lower name → member.rank ≤ other.rank

namespace StructType.IsLaidOut

variable {type : StructType} {id : TypeId} (laidOut : type.IsLaidOut id)

include laidOut

theorem rank_getElem {index : Nat} (inRange : index < type.members.length) :
    type.members[index].rank = index := by
  have atPlace : (type.members.map (·.rank))[index]? = (List.range type.members.length)[index]? := by
    rw [laidOut.ranks]
  simpa [inRange] using atPlace

theorem member?_iff (name : String) (member : Member) :
    type.member? name = some member ↔ member ∈ type.members ∧ member.name = name := by
  constructor
  · exact StructType.mem_of_member?
  · rintro ⟨present, rfl⟩
    exact laidOut.member? member present

/-- The first of the members with a property is the one of the lowest rank. -/
theorem find?_iff (holds : Member → Bool) (member : Member) :
    type.members.find? holds = some member ↔
      member ∈ type.members ∧ holds member ∧
        ∀ other ∈ type.members, holds other → member.rank ≤ other.rank := by
  rw [List.find?_eq_some_iff_getElem]
  constructor
  · rintro ⟨isOne, index, inRange, rfl, noneBefore⟩
    refine ⟨List.getElem_mem inRange, isOne, ?_⟩
    intro other present otherHolds
    obtain ⟨place, otherInRange, rfl⟩ := List.mem_iff_getElem.mp present
    rw [laidOut.rank_getElem, laidOut.rank_getElem]
    by_contra before
    have fails := noneBefore place (Nat.lt_of_not_le before)
    rw [otherHolds] at fails
    cases fails
  · rintro ⟨present, isOne, lowest⟩
    obtain ⟨index, inRange, rfl⟩ := List.mem_iff_getElem.mp present
    refine ⟨isOne, index, inRange, rfl, ?_⟩
    intro place before
    by_contra otherHolds
    have notBefore := lowest type.members[place] (List.getElem_mem _) (by simpa using otherHolds)
    rw [laidOut.rank_getElem, laidOut.rank_getElem] at notBefore
    omega

theorem memberIgnoringCase?_iff (name : String) (member : Member) :
    type.memberIgnoringCase? name = some member ↔
      member ∈ type.members ∧ Text.lower member.name = Text.lower name ∧
        ∀ other ∈ type.members, Text.lower other.name = Text.lower name → member.rank ≤ other.rank := by
  simp only [memberIgnoringCase?_eq, laidOut.find?_iff, beq_iff_eq]

end StructType.IsLaidOut

namespace SchemaDraft

/-- What is laid out of a struct is what is laid out of its base, with its own members behind it. -/
theorem layOut_derived (id baseId : TypeId) (own : List MemberSpec) (base : StructDefinition)
    (further : List StructDefinition) :
    (layOut id own (base :: further)).map (fun member => (member.toMemberSpec, member.inherited)) =
      (layOut baseId base.members further).map (fun member => (member.toMemberSpec, true)) ++
        own.map (·, false) := by
  have marked : (layOut baseId base.members further).map (fun member => (member.toMemberSpec, true)) =
      ((layOut baseId base.members further).map (fun member => (member.toMemberSpec, member.inherited))).map
        (fun entry => (entry.1, true)) := by
    simp
  rw [marked, layOut_specs, layOut_specs]
  simp [List.map_flatMap, Function.comp_def]

/-- The walk that flattens the base of a struct finds what is left of the walk that flattens the struct. -/
theorem describe_base (draft : SchemaDraft) (base : TypeId) (slot : Slot) (descriptor : TypeDescriptor)
    (definition : StructDefinition) (further : List StructDefinition)
    (isStruct : slot.definition = some (.struct definition))
    (chain : BaseDefinitions draft.Defines definition.base further)
    (described : draft.describe base slot = .ok descriptor) :
    descriptor.kind =
      .struct ⟨definition.base, layOut base definition.members further, definition.constructors⟩ := by
  obtain ⟨variants, isEnum, _⟩ | ⟨sameDefinition, bases, defined, baseFound, rfl⟩ :=
    draft.describe_ok base slot descriptor described
  · rw [isStruct] at isEnum
    cases isEnum
  · rw [isStruct] at defined
    cases defined
    rw [(baseChain_ok baseFound).unique draft.defines_functional chain]

theorem build_isFlattened (draft : SchemaDraft) (schema : Schema) (built : draft.build = .ok schema)
    (id : TypeId) (descriptor : TypeDescriptor) (type : StructType)
    (found : schema.get? id = some descriptor) (isStruct : descriptor.kind = .struct type) :
    ∃ definition, draft.Defines id (.struct definition) ∧ type.IsFlattened schema id definition := by
  have laidOut := draft.build_struct schema built id descriptor type found isStruct
  obtain ⟨⟨slot, atPlace, described⟩, _⟩ := draft.build_at schema built id descriptor found
  obtain ⟨variants, _, rfl⟩ | ⟨definition, bases, defined, baseFound, rfl⟩ :=
    draft.describe_ok id slot descriptor described
  · cases isStruct
  · cases isStruct
    refine ⟨definition, defines_of_slot atPlace defined, rfl, rfl, ?_, ?_, ?_, laidOut.member?_iff,
      laidOut.memberIgnoringCase?_iff⟩
    · intro (isRoot : definition.base = none)
      rw [isRoot] at baseFound
      cases baseChain_ok baseFound
      exact layOut_specs id definition.members []
    · intro base (isBase : definition.base = some base)
      rw [isBase] at baseFound
      cases baseChain_ok baseFound with
      | cons _ baseDefinition further baseDefined chain =>
          obtain ⟨ident, baseAtPlace⟩ := baseDefined
          obtain ⟨baseDescriptor, baseKept, baseDescribed⟩ := draft.build_slot schema built base _ baseAtPlace
          have baseKind := draft.describe_base base _ baseDescriptor baseDefinition further rfl chain
            baseDescribed
          exact ⟨baseDescriptor, _, baseKept, baseKind, layOut_derived id base _ _ _⟩
    · intro index member atIndex
      obtain ⟨inRange, rfl⟩ := List.getElem?_eq_some_iff.mp atIndex
      exact ⟨laidOut.rank_getElem inRange, laidOut.owners _ (List.getElem_mem inRange)⟩

/-- Every struct of a built schema is flattened from its definition and its base; and the walk over the
bases of a struct ends, whatever they lead to, before it has met as many bases as there are types. -/
theorem build_flattens (draft : SchemaDraft) :
    (∀ schema, draft.build = .ok schema → ∀ id descriptor type, schema.get? id = some descriptor →
      descriptor.kind = .struct type →
        ∃ definition, draft.Defines id (.struct definition) ∧ type.IsFlattened schema id definition) ∧
    ∀ owner, ∀ id ∈ draft.ids, ∀ start, ∃ steps < draft.slots.length,
      draft.Walk owner [id] start steps (draft.baseChain owner (draft.ids.erase id) start) := by
  refine ⟨draft.build_isFlattened, ?_⟩
  intro owner id present start
  have within : ∀ visited ∈ [id], visited ∈ draft.ids := List.forall_mem_singleton.mpr present
  have remains (other : TypeId) : other ∈ draft.ids.erase id ↔ other ∈ draft.ids ∧ other ∉ [id] := by
    rw [draft.ids_nodup.mem_erase_iff, List.mem_singleton]
    tauto
  obtain ⟨steps, bounded, walk⟩ :=
    draft.baseChain_walk owner start within remains (draft.ids_nodup.erase id)
  refine ⟨steps, ?_, walk⟩
  have nonempty := List.length_pos_of_mem present
  rw [List.length_erase_of_mem present] at bounded
  have size : draft.ids.length = draft.slots.length := by simp [ids]
  omega

/-- Orders are records and records are entities; an order has a member that differs from an inherited one
in case only. -/
def recordDraft : SchemaDraft where
  slots :=
    [⟨"Order", some (.struct ⟨some ⟨1⟩, [.accessible "ID" (.scalar .string) .property], [.literal]⟩)⟩,
      ⟨"Record", some (.struct ⟨some ⟨2⟩, [.accessible "owner" (.named ⟨2⟩) .field], []⟩)⟩,
      ⟨"Entity", some (.struct ⟨none, [.accessible "id" (.scalar .i64) .field], []⟩)⟩]
  misplaced := []

def recordSchema : Schema where
  types :=
    [⟨⟨0⟩, "Order", .struct ⟨some ⟨1⟩, layOut ⟨0⟩ [.accessible "ID" (.scalar .string) .property]
        [⟨some ⟨2⟩, [.accessible "owner" (.named ⟨2⟩) .field], []⟩,
          ⟨none, [.accessible "id" (.scalar .i64) .field], []⟩], [.literal]⟩⟩,
      ⟨⟨1⟩, "Record", .struct ⟨some ⟨2⟩, layOut ⟨1⟩ [.accessible "owner" (.named ⟨2⟩) .field]
        [⟨none, [.accessible "id" (.scalar .i64) .field], []⟩], []⟩⟩,
      ⟨⟨2⟩, "Entity", .struct ⟨none, layOut ⟨2⟩ [.accessible "id" (.scalar .i64) .field] [], []⟩⟩]

theorem recordDraft_build : recordDraft.build = .ok recordSchema := by
  decide +kernel

/-- Two structs that are each the base of the other. -/
def loopDraft : SchemaDraft where
  slots := [⟨"Left", some (.struct ⟨some ⟨1⟩, [], []⟩)⟩, ⟨"Right", some (.struct ⟨some ⟨0⟩, [], []⟩)⟩]
  misplaced := []

theorem recordDraft_flattened :
    (∃ descriptor type definition, recordSchema.get? ⟨0⟩ = some descriptor ∧
      descriptor.kind = .struct type ∧ recordDraft.Defines ⟨0⟩ (.struct definition) ∧
        type.IsFlattened recordSchema ⟨0⟩ definition ∧
          type.members.map (·.name) = ["id", "owner", "ID"] ∧
            (type.memberIgnoringCase? "Id").map (·.rank) = some 0) ∧
    ∃ steps < 2, loopDraft.Walk "Left" [⟨0⟩] (some ⟨1⟩) steps
      (.error (.invalidSchema "base chain of `Left` loops through `Left`")) := by
  constructor
  · obtain ⟨definition, defined, flattened⟩ :=
      recordDraft.build_flattens.1 recordSchema recordDraft_build ⟨0⟩ _ _ rfl rfl
    exact ⟨_, _, definition, rfl, rfl, defined, flattened, by decide +kernel, by decide +kernel⟩
  · have answer : loopDraft.baseChain "Left" (loopDraft.ids.erase ⟨0⟩) (some ⟨1⟩) =
        .error (.invalidSchema "base chain of `Left` loops through `Left`") := by decide +kernel
    rw [← answer]
    exact loopDraft.build_flattens.2 "Left" ⟨0⟩ (by decide) (some ⟨1⟩)

end SchemaDraft

end ObjectMapping
