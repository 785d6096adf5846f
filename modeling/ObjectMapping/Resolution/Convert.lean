/-
This file builds the expression that turns a source value into a destination value, following the
relation of their types. Enum functions are registered as they are needed.
-/

import ObjectMapping.Expr
import ObjectMapping.Request
import ObjectMapping.TypeRelation

namespace ObjectMapping

def Conversion.apply : Conversion → Expr → Expr
  | .widen target, value => .widen value target
  | .wrap, value => .some value
  | .widenAndWrap target, value => .some (.widen value target)

namespace MappingTask

/-- The names of the parameters of the mapping method, the source first. -/
def params (task : MappingTask) : List String := task.request.paramNames

def relation (task : MappingTask) (source destination : TypeRef) : TypeRelation :=
  TypeRelation.classify task.schema task.request.delegates task.params.length source destination

/-- The expression that reads a member of the source. -/
def read (task : MappingTask) (member : Member) : Expr :=
  .member task.sourceParam member.name member.kind member.type

/-- The name that a transform binds an element to. It is never that of a parameter of the method,
unless another parameter is named like the name made to avoid it. -/
def elementName (task : MappingTask) (element : TypeRef) : String :=
  let base :=
    match element.nonNullable with
    | .named id => (task.schema.nameOf id).snakeCase
    | _ => "item"
  if task.params.contains base then s!"{base}_item" else base

def enumCall (task : MappingTask) (registry : EnumRegistry) (key : EnumKey) (value : Expr) :
    EnumRegistry × Expr :=
  let (extended, function) := registry.register task.schema key
  (extended, .enumConvert function value)

/-- Hands a value to an included mapper, followed by the further parameters in order. -/
def delegateCall (task : MappingTask) (delegation : Delegation) (value : Expr) : Expr :=
  let forwarded := (task.params.take delegation.method.params.length).drop 1
  .delegate delegation.mapper.field delegation.method.name (value :: forwarded.map .param)

def convertElement (task : MappingTask) (registry : EnumRegistry) (value : Expr) :
    ElementRelation → EnumRegistry × Expr
  | .exact => (registry, value)
  | .enum key => task.enumCall registry key value
  | .implicit conversion => (registry, conversion.apply value)

/-- The converted value, or nothing where the relation does not allow it. -/
def convert? (task : MappingTask) (registry : EnumRegistry) (value : Expr)
    (source destination : TypeRef) : TypeRelation → Option (EnumRegistry × Expr)
  | .exact => some (registry, value)
  | .enum key => some (task.enumCall registry key value)
  | .implicit conversion => some (registry, conversion.apply value)
  | .collection relation target =>
      source.element?.map fun element =>
        let binder := task.elementName element
        let (extended, transform) := task.convertElement registry (.item binder element) relation
        (extended, .collect value binder transform target)
  | .delegated delegation =>
      if delegation.perElement then
        source.element?.map fun element =>
          let binder := task.elementName element
          let transform := task.delegateCall delegation (.item binder element)
          (registry, .collect value binder transform (destination.collectionKind?.getD .vec))
      else some (registry, task.delegateCall delegation value)
  | .nullableMismatch | .enumMismatch _ _ | .incompatible => none

end MappingTask

end ObjectMapping
