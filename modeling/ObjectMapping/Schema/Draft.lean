/-
This file collects type definitions. A name can be declared before it is defined, so that members
can refer to types that come later; every declared name gets the next free place.
-/

import ObjectMapping.Schema.Basic

namespace ObjectMapping

/-- A struct as it is written, without the members of its base. -/
structure StructDefinition where
  base : Option TypeId
  members : List MemberSpec
  constructors : List Constructor
  deriving Repr, DecidableEq

inductive Definition
  | struct (definition : StructDefinition)
  | enum (variants : List String)
  deriving Repr, DecidableEq

/-- A declared name with its definition, once there is one. -/
structure Slot where
  ident : String
  definition : Option Definition
  deriving Repr, DecidableEq

/-- The definitions that have been collected. -/
structure SchemaDraft where
  /-- The declared names; the place of a name is its id. -/
  slots : List Slot
  /-- The names whose definition found its place taken, or none, in the order of the attempts. -/
  misplaced : List String
  deriving Repr, DecidableEq

namespace SchemaDraft

def empty : SchemaDraft := ⟨[], []⟩

def typeId? (draft : SchemaDraft) (ident : String) : Option TypeId :=
  (draft.slots.findIdx? (·.ident == ident)).map TypeId.mk

/-- The id of a name, which gets the next place if it has none. -/
def declare (draft : SchemaDraft) (ident : String) : SchemaDraft × TypeId :=
  match draft.typeId? ident with
  | some id => (draft, id)
  | none => ({ draft with slots := draft.slots ++ [⟨ident, none⟩] }, ⟨draft.slots.length⟩)

/-- Defines a declared name; a second definition, or one without a declaration, is set down as
misplaced. -/
def define (draft : SchemaDraft) (id : TypeId) (definition : Definition) : SchemaDraft :=
  match draft.slots[id.index]? with
  | none => { draft with misplaced := draft.misplaced ++ [id.text] }
  | some slot =>
      if slot.definition.isSome then
        { draft with misplaced := draft.misplaced ++ [slot.ident] }
      else
        { draft with slots := draft.slots.set id.index ⟨slot.ident, some definition⟩ }

/-- Declares a name and defines it. -/
def add (draft : SchemaDraft) (ident : String) (definition : Definition) : SchemaDraft × TypeId :=
  let (declared, id) := draft.declare ident
  (declared.define id definition, id)

end SchemaDraft

end ObjectMapping
