/-
This file keeps the functions that convert one enum into another by the names of the variants. Each
conversion has one function, and no two functions share a name.
-/

import ObjectMapping.Schema.Basic

namespace ObjectMapping

/-- What one conversion function is for. -/
structure EnumKey where
  source : TypeId
  destination : TypeId
  sourceNullable : Bool
  destinationNullable : Bool
  deriving Repr, DecidableEq

structure EnumFunction where
  name : String
  key : EnumKey
  /-- The variants of the source, in the order of declaration. -/
  variants : List String
  deriving Repr, DecidableEq

/-- The functions that one mapping needs, in the order of first need. -/
structure EnumRegistry where
  functions : List EnumFunction
  deriving Repr, DecidableEq

namespace EnumRegistry

def empty : EnumRegistry := ⟨[]⟩

def get? (registry : EnumRegistry) (key : EnumKey) : Option EnumFunction :=
  registry.functions.find? (·.key == key)

def names (registry : EnumRegistry) : List String := registry.functions.map (·.name)

/-- The names that a function may get, the preferred one first; one of the first `count + 3` differs
from any `count` names. -/
def candidates (source destination : String) (count : Nat) : List String :=
  let long := s!"map_{source}_to_{destination}"
  s!"map_to_{destination}" :: long :: (List.range (count + 1)).map fun index => s!"{long}_{index + 2}"

/-- A name that no function has yet. -/
def freshName (registry : EnumRegistry) (source destination : String) : String :=
  ((candidates source destination registry.functions.length).find? fun candidate =>
    !registry.names.contains candidate).getD s!"map_{source}_to_{destination}"

/-- The function for a conversion, which is added on first need. -/
def register (registry : EnumRegistry) (schema : Schema) (key : EnumKey) : EnumRegistry × String :=
  match registry.get? key with
  | some function => (registry, function.name)
  | none =>
      let name := registry.freshName (schema.nameOf key.source).snakeCase
        (schema.nameOf key.destination).snakeCase
      let variants := (schema.variants? key.source).getD []
      (⟨registry.functions ++ [⟨name, key, variants⟩]⟩, name)

end EnumRegistry

end ObjectMapping
