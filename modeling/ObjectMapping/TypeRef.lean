/-
This file defines references to types, as they stand on members, parameters and results.
-/

import ObjectMapping.CollectionKind
import ObjectMapping.Scalar

namespace ObjectMapping

/-- The place of a declared type in its schema. -/
structure TypeId where
  index : Nat
  deriving Repr, DecidableEq

/-- How a type is called where its name is not known. -/
def TypeId.text (id : TypeId) : String := s!"TypeId({id.index})"

inductive TypeRef
  | scalar (value : Scalar)
  /-- A struct or enum of the schema. -/
  | named (id : TypeId)
  /-- A type that the schema does not declare, known by its written path alone. -/
  | foreign (path : String)
  /-- An optional value. -/
  | nullable (inner : TypeRef)
  | collection (kind : CollectionKind) (element : TypeRef)
  deriving Repr, DecidableEq

namespace TypeRef

def isNullable : TypeRef → Bool
  | .nullable _ => true
  | _ => false

/-- The type with one option taken off. -/
def nonNullable : TypeRef → TypeRef
  | .nullable inner => inner
  | type => type

def element? : TypeRef → Option TypeRef
  | .collection _ element => some element
  | _ => none

def collectionKind? : TypeRef → Option CollectionKind
  | .collection kind _ => some kind
  | _ => none

def scalar? : TypeRef → Option Scalar
  | .scalar value => some value
  | _ => none

/-- Whether values are known to be copied rather than moved; of a declared type this is not known. -/
def isCopy : TypeRef → Bool
  | .scalar value => value.isCopy
  | .nullable inner => inner.isCopy
  | _ => false

/-- The declared types that the reference is built from. -/
def namedTypes : TypeRef → List TypeId
  | .named id => [id]
  | .nullable inner => inner.namedTypes
  | .collection _ element => element.namedTypes
  | _ => []

end TypeRef

end ObjectMapping
