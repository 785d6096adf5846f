/-
This file finds, among the mappers that a mapper includes, a method that converts one type into
another.
-/

import ObjectMapping.TypeRef

namespace ObjectMapping

/-- The signature of a mapping method; its types are those behind the borrows. -/
structure DelegateMethod where
  name : String
  params : List TypeRef
  result : TypeRef
  deriving Repr, DecidableEq

structure IncludedMapper where
  name : String
  /-- The field that holds the mapper. -/
  field : String
  methods : List DelegateMethod
  deriving Repr, DecidableEq

/-- A method that converts a value, or, with `perElement`, the elements of a collection. -/
structure Delegation where
  mapper : IncludedMapper
  method : DelegateMethod
  perElement : Bool
  deriving Repr, DecidableEq

namespace Delegation

/-- Whether a method can be called by a mapping method with `arity` parameters, which it forwards. -/
def accepts (source destination : TypeRef) (arity : Nat) (method : DelegateMethod) : Bool :=
  method.result == destination && method.params.head? == some source &&
    method.params.length ≤ arity

/-- The first method, in the order of inclusion, from `source` to `destination`. -/
def findDirect? (mappers : List IncludedMapper) (perElement : Bool) (source destination : TypeRef)
    (arity : Nat) : Option Delegation :=
  mappers.findSome? fun mapper =>
    (mapper.methods.find? (accepts source destination arity)).map fun method =>
      ⟨mapper, method, perElement⟩

/-- Between two collections the elements are converted; a collection never converts into a type
that is none. -/
def find? (mappers : List IncludedMapper) (source destination : TypeRef) (arity : Nat) :
    Option Delegation :=
  match source.element?, destination.element? with
  | some sourceElement, some destinationElement =>
      findDirect? mappers true sourceElement destinationElement arity
  | none, none => findDirect? mappers false source destination arity
  | _, _ => none

end Delegation

end ObjectMapping
