/-
This file says which collected definitions make a schema. The rules that are checked on single slots, along
base chains and on flattened members hold if and only if the definitions are well-formed as a whole.
-/

import ObjectMapping.Proofs.Schema.BaseChain
import ObjectMapping.Proofs.Schema.Built

namespace ObjectMapping

/-- The members of a struct with those of its bases in front, as they are declared. -/
def StructDefinition.flattened (definition : StructDefinition) (bases : List StructDefinition) :
    List MemberSpec :=
  (definition :: bases).reverse.flatMap (·.members)

/-- What is defined, for so many declared names, makes a schema. -/
structure WellFormed (defines : TypeId → Definition → Prop) (count : Nat) : Prop where
  complete : ∀ index < count, ∃ definition, defines ⟨index⟩ definition
  variants : ∀ id variants, defines id (.enum variants) → variants.Nodup
  bases : ∀ id definition, defines id (.struct definition) → RunsThroughStructs defines id
  names : ∀ id definition bases, defines id (.struct definition) →
    BaseDefinitions defines definition.base bases → ((definition.flattened bases).map (·.name)).Nodup
  members : ∀ id definition bases, defines id (.struct definition) →
    BaseDefinitions defines definition.base bases → ∀ member ∈ definition.flattened bases,
      ∀ type ∈ member.type.namedTypes, type.index < count
  parameters : ∀ id definition, defines id (.struct definition) →
    ∀ constructor ∈ definition.constructors, ∀ parameter ∈ constructor.parameters,
      ∀ type ∈ parameter.type.namedTypes, type.index < count

namespace Schema

variable (schema : Schema)

theorem get?_isNone (id : TypeId) : (schema.get? id).isNone ↔ schema.types.length ≤ id.index := by
  rw [Option.isNone_iff_eq_none, get?, List.getElem?_eq_none_iff]

/-- A type has no fault if all that it is built from, however deep, is in the schema. -/
theorem unknownType?_none (type : TypeRef) :
    schema.unknownType? type = none ↔ ∀ id ∈ type.namedTypes, id.index < schema.types.length := by
  simp only [unknownType?, Option.map_eq_none_iff, List.find?_eq_none, get?_isNone, Nat.not_le]

theorem constructorFault?_none (owner : String) (constructor : Constructor) :
    schema.constructorFault? owner constructor = none ↔
      ∀ parameter ∈ constructor.parameters, ∀ id ∈ parameter.type.namedTypes,
        id.index < schema.types.length := by
  simp only [constructorFault?, Option.map_eq_none_iff, List.findSome?_eq_none_iff, unknownType?_none]

/-- A struct has no fault if its members have different names and all types in it are in the schema. -/
theorem descriptorFault?_none (id : TypeId) (ident : String) (type : StructType) :
    schema.descriptorFault? ⟨id, ident, .struct type⟩ = none ↔
      (type.members.map (·.name)).Nodup ∧
      (∀ member ∈ type.members, ∀ named ∈ member.type.namedTypes, named.index < schema.types.length) ∧
      ∀ constructor ∈ type.constructors, ∀ parameter ∈ constructor.parameters,
        ∀ named ∈ parameter.type.namedTypes, named.index < schema.types.length := by
  have memberRule := schema.memberFault?_none ident [] type.members
  simp only [List.not_mem_nil, not_false_eq_true, implies_true, true_and, unknownType?_none] at memberRule
  simp only [descriptorFault?]
  cases fault : schema.memberFault? ident [] type.members with
  | some found =>
      have broken := memberRule.not.mp (by simp [fault])
      simp only [reduceCtorEq, false_iff]
      rintro ⟨distinct, known, _⟩
      exact broken ⟨distinct, known⟩
  | none =>
      obtain ⟨distinct, known⟩ := memberRule.mp fault
      simp only [List.findSome?_eq_none_iff, constructorFault?_none]
      exact ⟨fun clean => ⟨distinct, known, clean⟩, fun clean => clean.2.2⟩

end Schema

namespace SchemaDraft

variable (draft : SchemaDraft)

theorem firstRepeated?_none (seen values : List String) :
    firstRepeated? seen values = none ↔ values.Nodup ∧ ∀ value ∈ values, value ∉ seen := by
  induction values generalizing seen with
  | nil => simp [firstRepeated?]
  | cons value rest inductionHypothesis =>
      simp only [firstRepeated?, List.contains_iff_mem, List.nodup_cons, List.forall_mem_cons]
      split
      · next isSeen => exact ⟨nofun, fun distinct => absurd isSeen distinct.2.1⟩
      · next isNew =>
          rw [inductionHypothesis]
          simp only [List.mem_cons, not_or]
          constructor
          · rintro ⟨distinct, fresh⟩
            exact ⟨⟨fun present => (fresh value present).1 rfl, distinct⟩, isNew,
              fun other present => (fresh other present).2⟩
          · rintro ⟨⟨absent, distinct⟩, _, fresh⟩
            exact ⟨distinct, fun other present => ⟨fun same => absent (same ▸ present), fresh other present⟩⟩

/-- A slot has no fault if it is defined and, for an enum, its variants differ. -/
theorem slotFault?_none (slot : Slot) :
    slotFault? slot = none ↔
      slot.definition.isSome ∧ ∀ variants, slot.definition = some (.enum variants) → variants.Nodup := by
  obtain ⟨ident, _ | (definition | variants)⟩ := slot
  · simp [slotFault?]
  · simp [slotFault?]
  · simp [slotFault?, firstRepeated?_none]

variable {draft}

theorem slots_of_mem_zipIdx {slot : Slot} {index : Nat} (present : (slot, index) ∈ draft.slots.zipIdx) :
    draft.slots[index]? = some slot := by
  simpa using List.mem_zipIdx_iff_getElem?.mp present

theorem describe_succeeds (wellFormed : WellFormed draft.Defines draft.slots.length) {id : TypeId}
    {slot : Slot} (atPlace : draft.slots[id.index]? = some slot) :
    ∃ descriptor, draft.describe id slot = .ok descriptor := by
  obtain ⟨definition, ident, found⟩ :=
    wellFormed.complete id.index (List.getElem?_eq_some_iff.mp atPlace).1
  rw [atPlace] at found
  cases found
  cases definition with
  | «enum» variants => exact ⟨_, rfl⟩
  | struct definition =>
      have defined : draft.Defines id (.struct definition) := ⟨ident, atPlace⟩
      obtain ⟨type, flattened⟩ := (flatten_succeeds defined ident).mpr (wellFormed.bases id definition defined)
      exact ⟨_, (bind_ok _ _ _).mpr ⟨type, flattened, rfl⟩⟩

theorem layOut_flattened (id : TypeId) (definition : StructDefinition) (bases : List StructDefinition) :
    (layOut id definition.members bases).map (·.toMemberSpec) = definition.flattened bases := by
  have specs := congrArg (List.map Prod.fst) (layOut_specs id definition.members bases)
  simpa [StructDefinition.flattened, List.map_flatMap, Function.comp_def] using specs

theorem descriptorFault?_flattened (schema : Schema) (id : TypeId) (ident : String)
    (definition : StructDefinition) (bases : List StructDefinition) :
    schema.descriptorFault? ⟨id, ident, .struct
        ⟨definition.base, layOut id definition.members bases, definition.constructors⟩⟩ = none ↔
      ((definition.flattened bases).map (·.name)).Nodup ∧
      (∀ member ∈ definition.flattened bases, ∀ named ∈ member.type.namedTypes,
        named.index < schema.types.length) ∧
      ∀ constructor ∈ definition.constructors, ∀ parameter ∈ constructor.parameters,
        ∀ named ∈ parameter.type.namedTypes, named.index < schema.types.length := by
  rw [Schema.descriptorFault?_none, ← layOut_flattened id definition bases, List.map_map, List.forall_mem_map]
  rfl

theorem build_length {schema : Schema} (built : draft.build = .ok schema) :
    schema.types.length = draft.slots.length := by
  have described := (draft.build_descriptors schema built).1.length_eq
  simpa using described.symm

theorem wellFormed_of_build {schema : Schema} (built : draft.build = .ok schema) :
    WellFormed draft.Defines draft.slots.length := by
  obtain ⟨_, slotsClean, _, _⟩ := (draft.build_ok schema).mp built
  -- What the rules on a struct come from: its descriptor is laid out along its base chain and has no fault.
  have ofStruct : ∀ id definition, draft.Defines id (.struct definition) →
      ∃ ident bases, BaseDefinitions draft.Defines definition.base bases ∧
        schema.descriptorFault? ⟨id, ident, .struct
          ⟨definition.base, layOut id definition.members bases, definition.constructors⟩⟩ = none := by
    intro id definition defined
    obtain ⟨ident, atPlace⟩ := defined
    obtain ⟨descriptor, kept, described⟩ := draft.build_slot schema built id _ atPlace
    have clean := (draft.build_at schema built id descriptor kept).2
    obtain ⟨_, isEnum, _⟩ | ⟨_, bases, isStruct, found, rfl⟩ := draft.describe_ok id _ descriptor described
    · cases isEnum
    · cases isStruct
      exact ⟨ident, bases, baseChain_ok found, clean⟩
  refine ⟨?_, ?_, ?_, ?_, ?_, ?_⟩
  · intro index below
    obtain ⟨isDefined, _⟩ := (slotFault?_none _).mp (slotsClean _ (List.getElem_mem below))
    obtain ⟨definition, defined⟩ := Option.isSome_iff_exists.mp isDefined
    exact ⟨definition, defines_of_slot (List.getElem?_eq_getElem below) defined⟩
  · rintro id variants ⟨ident, atPlace⟩
    exact ((slotFault?_none _).mp (slotsClean _ (List.mem_of_getElem? atPlace))).2 variants rfl
  · intro id definition defined
    obtain ⟨_, bases, chain, _⟩ := ofStruct id definition defined
    exact (BaseDefinitions.cons id definition bases defined chain).runsThroughStructs draft.defines_functional
  · intro id definition bases defined chain
    obtain ⟨ident, found, foundChain, clean⟩ := ofStruct id definition defined
    rw [chain.unique draft.defines_functional foundChain]
    exact ((descriptorFault?_flattened schema id ident definition found).mp clean).1
  · intro id definition bases defined chain
    obtain ⟨ident, found, foundChain, clean⟩ := ofStruct id definition defined
    rw [chain.unique draft.defines_functional foundChain, ← build_length built]
    exact ((descriptorFault?_flattened schema id ident definition found).mp clean).2.1
  · intro id definition defined
    obtain ⟨ident, found, _, clean⟩ := ofStruct id definition defined
    rw [← build_length built]
    exact ((descriptorFault?_flattened schema id ident definition found).mp clean).2.2

theorem build_of_wellFormed (placed : draft.misplaced = [])
    (wellFormed : WellFormed draft.Defines draft.slots.length) : ∃ schema, draft.build = .ok schema := by
  obtain ⟨types, described⟩ := (mapM_succeeds (fun place => draft.describe ⟨place.2⟩ place.1)
    draft.slots.zipIdx).mpr fun _ present => describe_succeeds wellFormed (slots_of_mem_zipIdx present)
  have sameLength : types.length = draft.slots.length := by
    simpa using ((mapM_ok _ _ _).mp described).length_eq.symm
  refine ⟨⟨types⟩, (draft.build_ok _).mpr ⟨placed, ?_, described, ?_⟩⟩
  · intro slot present
    obtain ⟨index, below, rfl⟩ := List.mem_iff_getElem.mp present
    obtain ⟨definition, ident, atPlace⟩ := wellFormed.complete index below
    have same := List.getElem?_eq_getElem below
    rw [atPlace] at same
    rw [slotFault?_none, ← Option.some.inj same]
    refine ⟨rfl, ?_⟩
    rintro variants ⟨⟩
    exact wellFormed.variants ⟨index⟩ variants ⟨ident, atPlace⟩
  · intro descriptor present
    obtain ⟨⟨slot, index⟩, isSlot, isDescribed⟩ := mapM_ok_mem described present
    obtain ⟨variants, _, rfl⟩ | ⟨definition, bases, isStruct, found, rfl⟩ :=
      draft.describe_ok ⟨index⟩ slot descriptor isDescribed
    · rfl
    · have defined := defines_of_slot (slots_of_mem_zipIdx isSlot) isStruct
      have chain := baseChain_ok found
      rw [descriptorFault?_flattened, sameLength]
      exact ⟨wellFormed.names _ definition bases defined chain,
        wellFormed.members _ definition bases defined chain,
        wellFormed.parameters _ definition defined⟩

/-- A draft makes a schema if and only if each definition found its place and they are well-formed. -/
theorem build_succeeds :
    (∃ schema, draft.build = .ok schema) ↔
      draft.misplaced = [] ∧ WellFormed draft.Defines draft.slots.length := by
  constructor
  · rintro ⟨schema, built⟩
    exact ⟨((draft.build_ok schema).mp built).1, wellFormed_of_build built⟩
  · rintro ⟨placed, wellFormed⟩
    exact build_of_wellFormed placed wellFormed

end SchemaDraft

end ObjectMapping
