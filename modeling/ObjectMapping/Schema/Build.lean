/-
This file turns collected definitions into a schema. Every declared name must have one definition,
variants must differ, base chains must end in structs, and the flattened members must have different
names and refer to types of the schema only. The first rule that is broken is reported.
-/

import ObjectMapping.Schema.Draft

namespace ObjectMapping

namespace SchemaDraft

/-- The first value that has occurred before, either in `seen` or in the list. -/
def firstRepeated? (seen : List String) : List String → Option String
  | [] => none
  | value :: rest => if seen.contains value then some value else firstRepeated? (value :: seen) rest

/-- What is wrong with a single slot, apart from its base and members. -/
def slotFault? (slot : Slot) : Option Fault :=
  match slot.definition with
  | none => some (.invalidSchema s!"type `{slot.ident}` is declared but never defined")
  | some (.enum variants) =>
      (firstRepeated? [] variants).map fun variant =>
        .invalidSchema s!"enum `{slot.ident}` declares variant `{variant}` more than once"
  | some (.struct _) => none

/-- The definitions of the bases of a struct, the nearest first. Each id leaves `remaining` when it
is visited, so the walk ends, and an id that is gone has been visited. -/
def baseChain (draft : SchemaDraft) (owner : String) (remaining : List TypeId) :
    Option TypeId → Except Fault (List StructDefinition)
  | none => .ok []
  | some base =>
      match draft.slots[base.index]? with
      | none => .error (.invalidSchema s!"base of `{owner}` refers to an unknown type")
      | some slot =>
          if present : base ∈ remaining then
            match slot.definition with
            | some (.struct definition) => do
                have fewer : (remaining.erase base).length < remaining.length := by
                  have nonempty := List.length_pos_of_mem present
                  rw [List.length_erase_of_mem present]
                  omega
                let further ← draft.baseChain owner (remaining.erase base) definition.base
                .ok (definition :: further)
            | _ => .error (.invalidSchema s!"base `{slot.ident}` of `{owner}` is not a struct")
          else
            .error (.invalidSchema s!"base chain of `{owner}` loops through `{slot.ident}`")
  termination_by remaining.length

/-- The ids of all slots. -/
def ids (draft : SchemaDraft) : List TypeId := (List.range draft.slots.length).map TypeId.mk

/-- The members of a struct with those of its bases in front, the farthest base first. -/
def layOut (id : TypeId) (own : List MemberSpec) (bases : List StructDefinition) : List Member :=
  let inherited := bases.reverse.flatMap fun definition =>
    definition.members.map fun member => (member, true)
  (inherited ++ own.map fun member => (member, false)).zipIdx.map fun ((member, inherited), rank) =>
    { member with owner := id, rank := rank, inherited := inherited }

def flatten (draft : SchemaDraft) (id : TypeId) (ident : String) (definition : StructDefinition) :
    Except Fault StructType := do
  let bases ← draft.baseChain ident (draft.ids.erase id) definition.base
  .ok ⟨definition.base, layOut id definition.members bases, definition.constructors⟩

/-- The descriptor of a slot; a name without a definition has been refused before. -/
def describe (draft : SchemaDraft) (id : TypeId) (slot : Slot) : Except Fault TypeDescriptor :=
  match slot.definition with
  | some (.struct definition) => do
      let type ← draft.flatten id slot.ident definition
      .ok ⟨id, slot.ident, .struct type⟩
  | some (.enum variants) => .ok ⟨id, slot.ident, .enum variants⟩
  | none => .error (.invalidSchema s!"type `{slot.ident}` is declared but never defined")

end SchemaDraft

namespace Schema

/-- The first type of a reference that the schema does not hold. -/
def unknownType? (schema : Schema) (type : TypeRef) : Option Fault :=
  (type.namedTypes.find? fun id => (schema.get? id).isNone).map fun id => .unknownType id.text

def memberFault? (schema : Schema) (owner : String) (seen : List String) :
    List Member → Option Fault
  | [] => none
  | member :: rest =>
      if seen.contains member.name then
        some (.invalidSchema s!"`{owner}` has more than one member named `{member.name}`")
      else
        match schema.unknownType? member.type with
        | some fault => some (fault.within (.note s!"member `{owner}.{member.name}`"))
        | none => schema.memberFault? owner (member.name :: seen) rest

def constructorFault? (schema : Schema) (owner : String) (constructor : Constructor) :
    Option Fault :=
  (constructor.parameters.findSome? fun parameter => schema.unknownType? parameter.type).map
    (·.within (.note s!"constructor `{schema.signature owner constructor}`"))

def descriptorFault? (schema : Schema) (descriptor : TypeDescriptor) : Option Fault :=
  match descriptor.kind with
  | .enum _ => none
  | .struct type =>
      match schema.memberFault? descriptor.ident [] type.members with
      | some fault => some fault
      | none => type.constructors.findSome? (schema.constructorFault? descriptor.ident)

end Schema

/-- The schema of the collected definitions, or the first fault in them. -/
def SchemaDraft.build (draft : SchemaDraft) : Except Fault Schema :=
  match draft.misplaced with
  | name :: _ => .error (.invalidSchema s!"duplicate type `{name}`")
  | [] =>
      match draft.slots.findSome? SchemaDraft.slotFault? with
      | some fault => .error fault
      | none => do
          let types ← draft.slots.zipIdx.mapM fun (slot, index) => draft.describe ⟨index⟩ slot
          let schema : Schema := ⟨types⟩
          match types.findSome? schema.descriptorFault? with
          | some fault => .error fault
          | none => .ok schema

end ObjectMapping
