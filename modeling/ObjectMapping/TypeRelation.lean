/-
This file tells how a source type relates to a destination type: whether a value can be taken over as
it is, converted without loss, converted element by element or by an included mapper, or not at all.
-/

import ObjectMapping.Delegation
import ObjectMapping.EnumFunction

namespace ObjectMapping

/-- A conversion that loses nothing. -/
inductive Conversion
  /-- To a wider scalar. -/
  | widen (target : Scalar)
  /-- Into an option. -/
  | wrap
  /-- To a wider scalar inside an option. -/
  | widenAndWrap (target : Scalar)
  deriving Repr, DecidableEq

/-- How the elements of two collections relate when one can be built from the other. -/
inductive ElementRelation
  | exact
  | enum (key : EnumKey)
  | implicit (conversion : Conversion)
  deriving Repr, DecidableEq

inductive TypeRelation
  | exact
  /-- The destination is the type inside the option of the source. -/
  | nullableMismatch
  /-- Two enums; every variant of the source is one of the destination. -/
  | enum (key : EnumKey)
  /-- Two enums, of which the destination lacks variants. -/
  | enumMismatch (destination : TypeId) (missing : List String)
  | implicit (conversion : Conversion)
  /-- Two collections; each element is converted. -/
  | collection (element : ElementRelation) (target : CollectionKind)
  /-- An included mapper converts the value or its elements. -/
  | delegated (delegation : Delegation)
  | incompatible
  deriving Repr, DecidableEq

namespace TypeRelation

/-- Whether a value of the source type can be turned into one of the destination type. -/
def isCompatible : TypeRelation → Bool
  | .nullableMismatch | .enumMismatch _ _ | .incompatible => false
  | _ => true

/-- The variants of the source that the destination lacks, in the order of the source. -/
def missingVariants (source destination : List String) : List String :=
  source.filter fun variant => !destination.contains variant

/-- Two types that are enums once an option is looked through: variants go by name. The result is
the key of the conversion, or the destination with the variants it lacks. -/
def ofEnums? (schema : Schema) (source destination : TypeRef) :
    Option (Except (TypeId × List String) EnumKey) :=
  match schema.enum? source, schema.enum? destination with
  | some (sourceId, sourceVariants), some (destinationId, destinationVariants) =>
      let missing := missingVariants sourceVariants destinationVariants
      if missing.isEmpty then
        some (.ok ⟨sourceId, destinationId, source.isNullable, destination.isNullable⟩)
      else some (.error (destinationId, missing))
  | _, _ => none

/-- The conversion between two scalars, the first of which must be narrower. -/
def widening? : TypeRef → TypeRef → Option Scalar
  | .scalar source, .scalar target => if source.widensTo target then some target else none
  | _, _ => none

/-- The built-in conversion between two types; an option is never wrapped again. -/
def implicit? (source destination : TypeRef) : Option Conversion :=
  match widening? source destination with
  | some target => some (.widen target)
  | none =>
      match destination with
      | .nullable inner =>
          if source.isNullable then none
          else if source = inner then some .wrap
          else (widening? source inner).map .widenAndWrap
      | _ => none

/-- The relation of two element types, or why an enum stands in the way if that is the reason. -/
def ofElements (schema : Schema) (source destination : TypeRef) :
    Except (Option (TypeId × List String)) ElementRelation :=
  if source = destination then .ok .exact
  else
    match ofEnums? schema source destination with
    | some (.ok key) => .ok (.enum key)
    | some (.error mismatch) => .error (some mismatch)
    | none =>
        match implicit? source destination with
        | some conversion => .ok (.implicit conversion)
        | none => .error none

/-- What is left when no rule of the library itself applies: an included mapper, or nothing. -/
def ofDelegates (mappers : List IncludedMapper) (arity : Nat) (source destination : TypeRef) :
    TypeRelation :=
  match Delegation.find? mappers source destination arity with
  | some delegation => .delegated delegation
  | none => .incompatible

/-- The rules for two collections. Elements whose enums do not fit are reported like single
values. -/
def ofCollections (schema : Schema) (mappers : List IncludedMapper) (arity : Nat)
    (source destination : TypeRef) : TypeRelation :=
  match source, destination with
  | .collection _ sourceElement, .collection target destinationElement =>
      match ofElements schema sourceElement destinationElement with
      | .ok element => .collection element target
      | .error (some (id, missing)) => .enumMismatch id missing
      | .error none => ofDelegates mappers arity source destination
  | _, _ => ofDelegates mappers arity source destination

/-- The relation of two types; the first rule that applies decides. `arity` is the number of
parameters that the calling method can forward. -/
def classify (schema : Schema) (mappers : List IncludedMapper) (arity : Nat)
    (source destination : TypeRef) : TypeRelation :=
  if source = destination then .exact
  else if source = .nullable destination then .nullableMismatch
  else
    match ofEnums? schema source destination with
    | some (.ok key) => .enum key
    | some (.error (id, missing)) => .enumMismatch id missing
    | none =>
        match implicit? source destination with
        | some conversion => .implicit conversion
        | none => ofCollections schema mappers arity source destination

end TypeRelation

end ObjectMapping
