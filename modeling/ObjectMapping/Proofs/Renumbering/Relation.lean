/-
This file relates types and their counterparts under other ids. Two schemas that agree on identifiers and
variants classify counterparts alike, and name the same functions for them.
-/

import ObjectMapping.Proofs.Renumbering.Basic

namespace ObjectMapping

/-- The second schema says of the new id of a type what the first says of the type. -/
structure Schema.Mirrors (renumber : Equiv.Perm TypeId) (first second : Schema) : Prop where
  idents : ∀ id, second.identOf (renumber id) = first.identOf id
  variants : ∀ id, second.variants? (renumber id) = first.variants? id

section

variable (renumber : Equiv.Perm TypeId)

namespace TypeRef

variable (type : TypeRef)

@[simp]
theorem isNullable_renumbered : (type.renumbered renumber).isNullable = type.isNullable := by
  cases type <;> rfl

@[simp]
theorem nonNullable_renumbered :
    (type.renumbered renumber).nonNullable = type.nonNullable.renumbered renumber := by
  cases type <;> rfl

@[simp]
theorem element?_renumbered :
    (type.renumbered renumber).element? = type.element?.map (·.renumbered renumber) := by
  cases type <;> rfl

@[simp]
theorem collectionKind?_renumbered : (type.renumbered renumber).collectionKind? = type.collectionKind? := by
  cases type <;> rfl

end TypeRef

namespace Delegation

variable (mappers : List IncludedMapper) (source destination : TypeRef) (arity : Nat)

theorem accepts_renumbered (method : DelegateMethod) :
    accepts (source.renumbered renumber) (destination.renumbered renumber) arity (method.renumbered renumber) =
      accepts source destination arity method := by
  have sameFirst : (method.params.head?.map (TypeRef.renumbered renumber) = some (source.renumbered renumber)) =
      (method.params.head? = some source) := by
    cases method.params.head? <;> simp
  rw [Bool.eq_iff_iff]
  simp [accepts, DelegateMethod.renumbered, sameFirst]

theorem findDirect?_renumbered (perElement : Bool) :
    findDirect? (mappers.map (·.renumbered renumber)) perElement (source.renumbered renumber)
        (destination.renumbered renumber) arity =
      (findDirect? mappers perElement source destination arity).map (·.renumbered renumber) := by
  induction mappers with
  | nil => rfl
  | cons mapper rest inductionHypothesis =>
      have accepted : accepts (source.renumbered renumber) (destination.renumbered renumber) arity ∘
          DelegateMethod.renumbered renumber = accepts source destination arity :=
        funext (accepts_renumbered renumber source destination arity)
      have sameMethods : (mapper.renumbered renumber).methods = mapper.methods.map (·.renumbered renumber) := rfl
      unfold findDirect? at inductionHypothesis ⊢
      rw [List.map_cons, List.findSome?_cons, List.findSome?_cons, sameMethods, List.find?_map, accepted]
      cases mapper.methods.find? (accepts source destination arity) with
      | none => exact inductionHypothesis
      | some method => rfl

theorem find?_renumbered :
    find? (mappers.map (·.renumbered renumber)) (source.renumbered renumber) (destination.renumbered renumber)
        arity =
      (find? mappers source destination arity).map (·.renumbered renumber) := by
  unfold find?
  rw [TypeRef.element?_renumbered, TypeRef.element?_renumbered]
  cases source.element? <;> cases destination.element? <;>
    first | rfl | exact findDirect?_renumbered renumber mappers _ _ arity _

end Delegation

namespace TypeRelation

variable (source destination : TypeRef)

theorem widening?_renumbered :
    widening? (source.renumbered renumber) (destination.renumbered renumber) = widening? source destination := by
  cases source <;> cases destination <;> rfl

theorem implicit?_renumbered :
    implicit? (source.renumbered renumber) (destination.renumbered renumber) = implicit? source destination := by
  unfold implicit?
  rw [widening?_renumbered]
  cases widening? source destination with
  | some target => rfl
  | none =>
      cases destination with
      | nullable inner =>
          simp only [TypeRef.renumbered, TypeRef.isNullable_renumbered, TypeRef.renumbered_inj,
            widening?_renumbered]
      | scalar | named | foreign | collection => rfl

theorem ofDelegates_renumbered (mappers : List IncludedMapper) (arity : Nat) :
    ofDelegates (mappers.map (·.renumbered renumber)) arity (source.renumbered renumber)
        (destination.renumbered renumber) =
      (ofDelegates mappers arity source destination).renumbered renumber := by
  unfold ofDelegates
  rw [Delegation.find?_renumbered]
  cases Delegation.find? mappers source destination arity <;> rfl

end TypeRelation

end

namespace EnumRegistry

variable (renumber : Equiv.Perm TypeId) (registry : EnumRegistry)

@[simp]
theorem names_renumbered : (registry.renumbered renumber).names = registry.names := by
  simp [names, renumbered, EnumFunction.renumbered, Function.comp_def]

theorem get?_renumbered (key : EnumKey) :
    (registry.renumbered renumber).get? (key.renumbered renumber) =
      (registry.get? key).map (·.renumbered renumber) := by
  have sameKey : (fun function : EnumFunction => function.key == key.renumbered renumber) ∘
      EnumFunction.renumbered renumber = fun function => function.key == key := by
    funext function
    rw [Bool.eq_iff_iff]
    simp [EnumFunction.renumbered]
  rw [get?, renumbered, List.find?_map, sameKey]
  rfl

theorem freshName_renumbered (source destination : String) :
    (registry.renumbered renumber).freshName source destination = registry.freshName source destination := by
  have sameLength : (registry.renumbered renumber).functions.length = registry.functions.length :=
    List.length_map _
  rw [freshName, freshName, names_renumbered, sameLength]

end EnumRegistry

namespace Schema.Mirrors

variable {renumber : Equiv.Perm TypeId} {first second : Schema} (mirrors : first.Mirrors renumber second)

include mirrors

theorem nameOf (id : TypeId) : second.nameOf (renumber id) = first.nameOf id :=
  congrArg Name.ofText (mirrors.idents id)

theorem enum? (type : TypeRef) :
    second.enum? (type.renumbered renumber) = (first.enum? type).map (Prod.map renumber id) := by
  unfold Schema.enum?
  rw [TypeRef.nonNullable_renumbered]
  cases type.nonNullable with
  | named id =>
      simp only [TypeRef.renumbered, mirrors.variants, Option.map_map]
      rfl
  | scalar | foreign | nullable | collection => rfl

theorem display (type : TypeRef) : second.display (type.renumbered renumber) = first.display type := by
  induction type with
  | scalar | foreign => rfl
  | named id => exact mirrors.idents id
  | nullable inner inductionHypothesis =>
      rw [TypeRef.renumbered, Schema.display, Schema.display, inductionHypothesis]
  | collection kind element inductionHypothesis =>
      rw [TypeRef.renumbered, Schema.display, Schema.display, inductionHypothesis]

theorem signatures (owner : String) (constructors : List Constructor) :
    second.signatures owner (constructors.map (·.renumbered renumber)) =
      first.signatures owner constructors := by
  have same (constructor : Constructor) :
      second.signature owner (constructor.renumbered renumber) = first.signature owner constructor := by
    cases constructor with
    | literal => rfl
    | function name parameters =>
        simp [Constructor.renumbered, Parameter.renumbered, Schema.signature, mirrors.display,
          Function.comp_def]
  simp [Schema.signatures, same, Function.comp_def]

/-- Counterparts of two enums are converted by the counterpart of the function, or lack the same variants. -/
theorem ofEnums? (source destination : TypeRef) :
    TypeRelation.ofEnums? second (source.renumbered renumber) (destination.renumbered renumber) =
      (TypeRelation.ofEnums? first source destination).map fun answer =>
        (answer.map (·.renumbered renumber)).mapError (Prod.map renumber id) := by
  unfold TypeRelation.ofEnums?
  rw [mirrors.enum?, mirrors.enum?]
  cases first.enum? source with
  | none => rfl
  | some sourceEnum =>
      cases first.enum? destination with
      | none => rfl
      | some destinationEnum =>
          simp only [Option.map_some, Prod.map, id, TypeRef.isNullable_renumbered]
          split <;> rfl

theorem ofElements (source destination : TypeRef) :
    TypeRelation.ofElements second (source.renumbered renumber) (destination.renumbered renumber) =
      ((TypeRelation.ofElements first source destination).map (·.renumbered renumber)).mapError
        (Option.map (Prod.map renumber id)) := by
  unfold TypeRelation.ofElements
  simp only [TypeRef.renumbered_inj, mirrors.ofEnums?, TypeRelation.implicit?_renumbered]
  split
  · rfl
  · cases TypeRelation.ofEnums? first source destination with
    | some answer => cases answer <;> rfl
    | none => cases TypeRelation.implicit? source destination <;> rfl

theorem ofCollections (mappers : List IncludedMapper) (arity : Nat) (source destination : TypeRef) :
    TypeRelation.ofCollections second (mappers.map (·.renumbered renumber)) arity (source.renumbered renumber)
        (destination.renumbered renumber) =
      (TypeRelation.ofCollections first mappers arity source destination).renumbered renumber := by
  have delegated := TypeRelation.ofDelegates_renumbered renumber source destination mappers arity
  cases source with
  | collection kind sourceElement =>
      cases destination with
      | collection target destinationElement =>
          simp only [TypeRef.renumbered, TypeRelation.ofCollections, mirrors.ofElements] at delegated ⊢
          cases TypeRelation.ofElements first sourceElement destinationElement with
          | ok relation => rfl
          | error reason =>
              cases reason with
              | some mismatch => rfl
              | none => exact delegated
      | scalar | named | foreign | nullable => exact delegated
  | scalar | named | foreign | nullable => exact delegated

/-- Counterparts are related like the types. -/
theorem classify (mappers : List IncludedMapper) (arity : Nat) (source destination : TypeRef) :
    TypeRelation.classify second (mappers.map (·.renumbered renumber)) arity (source.renumbered renumber)
        (destination.renumbered renumber) =
      (TypeRelation.classify first mappers arity source destination).renumbered renumber := by
  have sameOption : (source.renumbered renumber = .nullable (destination.renumbered renumber)) =
      (source = .nullable destination) := by
    rw [← TypeRef.renumbered_inj renumber source]
    rfl
  unfold TypeRelation.classify
  simp only [TypeRef.renumbered_inj, sameOption, mirrors.ofEnums?, TypeRelation.implicit?_renumbered,
    mirrors.ofCollections]
  split
  · rfl
  · split
    · rfl
    · cases TypeRelation.ofEnums? first source destination with
      | some answer => cases answer <;> rfl
      | none => cases TypeRelation.implicit? source destination <;> rfl

/-- A function that is registered for a counterpart gets the same name. -/
theorem register (registry : EnumRegistry) (key : EnumKey) :
    (registry.renumbered renumber).register second (key.renumbered renumber) =
      Prod.map (·.renumbered renumber) id (registry.register first key) := by
  unfold EnumRegistry.register
  rw [EnumRegistry.get?_renumbered]
  cases registry.get? key with
  | some function => rfl
  | none =>
      simp only [Option.map_none, EnumKey.renumbered, mirrors.nameOf, mirrors.variants,
        EnumRegistry.freshName_renumbered]
      simp [EnumRegistry.renumbered, EnumFunction.renumbered, EnumKey.renumbered]

end Schema.Mirrors

end ObjectMapping
