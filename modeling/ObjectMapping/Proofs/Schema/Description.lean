/-
This file reads the types of a built schema off its definitions. At each place stands the one descriptor that the
definitions along a base chain make, so that drafts can be compared without building them.
-/

import ObjectMapping.Proofs.Schema.Steps

namespace ObjectMapping

theorem TypeDescriptor.struct?_eq_some {descriptor : TypeDescriptor} {type : StructType} :
    descriptor.struct? = some type ↔ descriptor.kind = .struct type := by
  unfold struct?
  split <;> simp [*]

/-- The descriptor that definitions make for a name and its id. -/
inductive Describes (defines : TypeId → Definition → Prop) (id : TypeId) (ident : String) :
    TypeDescriptor → Prop
  | enum (variants : List String) (defined : defines id (.enum variants)) :
      Describes defines id ident ⟨id, ident, .enum variants⟩
  | struct (definition : StructDefinition) (bases : List StructDefinition)
      (defined : defines id (.struct definition))
      (chain : BaseDefinitions defines definition.base bases) :
      Describes defines id ident ⟨id, ident, .struct
        ⟨definition.base, SchemaDraft.layOut id definition.members bases, definition.constructors⟩⟩

theorem Describes.unique {defines : TypeId → Definition → Prop}
    (functional : ∀ id first second, defines id first → defines id second → first = second)
    {id : TypeId} {ident : String} {first second : TypeDescriptor} (left : Describes defines id ident first)
    (right : Describes defines id ident second) : first = second := by
  cases left with
  | enum variants defined =>
      cases right with
      | enum others otherDefined =>
          cases functional id _ _ defined otherDefined
          rfl
      | struct definition bases otherDefined => cases functional id _ _ defined otherDefined
  | struct definition bases defined chain =>
      cases right with
      | enum others otherDefined => cases functional id _ _ defined otherDefined
      | struct other otherBases otherDefined otherChain =>
          cases functional id _ _ defined otherDefined
          rw [chain.unique functional otherChain]

namespace SchemaDraft

variable {draft : SchemaDraft} {schema : Schema}

/-- A schema that is built holds what the definitions describe, and nothing else. -/
theorem build_describes (built : draft.build = .ok schema) (id : TypeId) (descriptor : TypeDescriptor) :
    schema.get? id = some descriptor ↔
      ∃ ident, draft.names[id.index]? = some ident ∧ Describes draft.Defines id ident descriptor := by
  have ofSlot : ∀ slot descriptor, draft.slots[id.index]? = some slot → draft.describe id slot = .ok descriptor →
      Describes draft.Defines id slot.ident descriptor := by
    intro slot descriptor atPlace described
    obtain ⟨variants, isEnum, rfl⟩ | ⟨definition, bases, isStruct, found, rfl⟩ :=
      draft.describe_ok id slot descriptor described
    · exact .enum variants (defines_of_slot atPlace isEnum)
    · exact .struct definition bases (defines_of_slot atPlace isStruct) (baseChain_ok found)
  constructor
  · intro found
    obtain ⟨⟨slot, atPlace, described⟩, _⟩ := draft.build_at schema built id descriptor found
    refine ⟨slot.ident, ?_, ofSlot slot descriptor atPlace described⟩
    rw [names, List.getElem?_map, atPlace]
    rfl
  · rintro ⟨ident, isNamed, describes⟩
    rw [names, List.getElem?_map] at isNamed
    obtain ⟨slot, atPlace, rfl⟩ := Option.map_eq_some_iff.mp isNamed
    obtain ⟨found, isFound, described⟩ := draft.build_slot schema built id slot atPlace
    rw [isFound, describes.unique draft.defines_functional (ofSlot slot found atPlace described)]

/-- A schema has a type at each place where a name is declared. -/
theorem build_get?_none (built : draft.build = .ok schema) (id : TypeId) :
    schema.get? id = none ↔ draft.names[id.index]? = none := by
  rw [Schema.get?, List.getElem?_eq_none_iff, List.getElem?_eq_none_iff, build_length built, names,
    List.length_map]

end SchemaDraft

end ObjectMapping
