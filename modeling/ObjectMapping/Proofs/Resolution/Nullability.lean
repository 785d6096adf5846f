/-
This file proves what becomes of an option where the type inside it is wanted: a single value is refused,
and the elements of a collection are left to included mappers, unless they are enums.
-/

import ObjectMapping.Proofs.Resolution.Typing

namespace ObjectMapping

theorem TypeRef.nullable_ne (type : TypeRef) : TypeRef.nullable type ≠ type := by
  intro same
  have sameSize := congrArg sizeOf same
  simp at sameSize

/-- The type is an enum of the schema, without an option around it. -/
def Schema.IsEnum (schema : Schema) (type : TypeRef) : Prop :=
  ∃ id variants, type = .named id ∧ schema.variants? id = some variants

namespace TypeRelation

/-- An enum has all of its own variants. -/
theorem missingVariants_self (variants : List String) : missingVariants variants variants = [] := by
  simp [missingVariants]

/-- The rule for enums looks through the option, so that it takes the option off an enum. -/
theorem ofEnums?_nullable (schema : Schema) (id : TypeId) (variants : List String)
    (found : schema.variants? id = some variants) :
    ofEnums? schema (.nullable (.named id)) (.named id) = some (.ok ⟨id, id, true, false⟩) := by
  simp [ofEnums?, Schema.enum?, TypeRef.nonNullable, TypeRef.isNullable, found, missingVariants_self]

/-- The rule for enums has no say about any other type. -/
theorem ofEnums?_nullable_none (schema : Schema) (type : TypeRef) (notEnum : ¬schema.IsEnum type) :
    ofEnums? schema (.nullable type) type = none := by
  have behind : schema.enum? (.nullable type) = none := by
    cases type with
    | named id =>
        cases found : schema.variants? id with
        | none => simp [Schema.enum?, TypeRef.nonNullable, found]
        | some variants => exact absurd ⟨id, variants, rfl, found⟩ notEnum
    | scalar | foreign | nullable | collection => rfl
  simp [ofEnums?, behind]

/-- Built-in conversions do not start from an option. -/
theorem implicit?_nullable (source destination : TypeRef) :
    implicit? (.nullable source) destination = none := by
  cases destination <;> rfl

/-- The relation of elements that are options to elements of the type inside. -/
theorem ofElements_nullable (schema : Schema) (type : TypeRef) (notEnum : ¬schema.IsEnum type) :
    ofElements schema (.nullable type) type = .error none := by
  rw [ofElements, if_neg type.nullable_ne, ofEnums?_nullable_none schema type notEnum,
    implicit?_nullable]

theorem ofElements_nullableEnum (schema : Schema) (id : TypeId) (variants : List String)
    (found : schema.variants? id = some variants) :
    ofElements schema (.nullable (.named id)) (.named id) = .ok (.enum ⟨id, id, true, false⟩) := by
  rw [ofElements, if_neg (TypeRef.named id).nullable_ne, ofEnums?_nullable schema id variants found]

variable (schema : Schema) (mappers : List IncludedMapper) (arity : Nat)

/-- Whether a value is present is never guessed: an option does not become the type inside. -/
theorem classify_nullable (type : TypeRef) :
    classify schema mappers arity (.nullable type) type = .nullableMismatch := by
  rw [classify, if_neg type.nullable_ne, if_pos rfl]

/-- Two collections are related by the rules for collections, unless they are the same. -/
theorem classify_collections (kind target : CollectionKind) (source destination : TypeRef)
    (differ : source ≠ destination) :
    classify schema mappers arity (.collection kind source) (.collection target destination) =
      ofCollections schema mappers arity (.collection kind source) (.collection target destination) := by
  have outer : TypeRef.collection kind source ≠ .collection target destination := by
    intro same
    exact differ (TypeRef.collection.inj same).2
  rw [classify, if_neg outer, if_neg (by simp)]
  rfl

/-- A relation that included mappers decide is a delegation where it allows a conversion. -/
theorem ofDelegates_delegated (source destination : TypeRef)
    (compatible : (ofDelegates mappers arity source destination).isCompatible = true) :
    ∃ delegation, Delegation.find? mappers source destination arity = some delegation ∧
      ofDelegates mappers arity source destination = .delegated delegation := by
  unfold ofDelegates at compatible ⊢
  cases found : Delegation.find? mappers source destination arity with
  | none => simp [found, isCompatible] at compatible
  | some delegation => exact ⟨delegation, rfl, rfl⟩

theorem classify_nullableElements (kind target : CollectionKind) (type : TypeRef)
    (notEnum : ¬schema.IsEnum type) :
    classify schema mappers arity (.collection kind (.nullable type)) (.collection target type) =
      ofDelegates mappers arity (.collection kind (.nullable type)) (.collection target type) := by
  rw [classify_collections _ _ _ _ _ _ _ type.nullable_ne, ofCollections,
    ofElements_nullable schema type notEnum]

/-- The rule for enums takes the option off each element. -/
theorem classify_nullableEnumElements (kind target : CollectionKind) (id : TypeId)
    (variants : List String) (found : schema.variants? id = some variants) :
    classify schema mappers arity (.collection kind (.nullable (.named id)))
        (.collection target (.named id)) =
      .collection (.enum ⟨id, id, true, false⟩) target := by
  rw [classify_collections _ _ _ _ _ _ _ (TypeRef.named id).nullable_ne, ofCollections,
    ofElements_nullableEnum schema id variants found]

/-- An option is refused where the type inside is wanted. In a collection it is taken off without an
included mapper for enums of the schema, and for no other type. -/
theorem classify_keepsOptions (type : TypeRef) :
    classify schema mappers arity (.nullable type) type = .nullableMismatch ∧
      ∀ kind target,
        (classify schema mappers arity (.collection kind (.nullable type))
            (.collection target type)).isCompatible = true ∧
          (∀ delegation, classify schema mappers arity (.collection kind (.nullable type))
            (.collection target type) ≠ .delegated delegation) ↔
        schema.IsEnum type := by
  refine ⟨classify_nullable schema mappers arity type, ?_⟩
  intro kind target
  constructor
  · rintro ⟨compatible, undelegated⟩
    by_contra notEnum
    rw [classify_nullableElements schema mappers arity kind target type notEnum] at compatible undelegated
    obtain ⟨delegation, _, delegated⟩ := ofDelegates_delegated mappers arity _ _ compatible
    exact undelegated delegation delegated
  · rintro ⟨id, variants, rfl, found⟩
    rw [classify_nullableEnumElements schema mappers arity kind target id variants found]
    exact ⟨rfl, by simp⟩

/-- Options of an enum are taken off in a collection though no mapper is included. -/
theorem classify_dropsOptions :
    ¬∀ (schema : Schema) (mappers : List IncludedMapper) (arity : Nat) (type : TypeRef),
      classify schema mappers arity (.nullable type) type = .nullableMismatch ∧
        ∀ kind target,
          (classify schema mappers arity (.collection kind (.nullable type))
            (.collection target type)).isCompatible = true →
          ∃ delegation, classify schema mappers arity (.collection kind (.nullable type))
            (.collection target type) = .delegated delegation := by
  intro kept
  obtain ⟨delegation, delegated⟩ := (kept SchemaDraft.orderSchema [] 1 (.named ⟨0⟩)).2 .vec .vec rfl
  cases delegated

end TypeRelation

namespace MappingTask

variable (task : MappingTask) (registry : EnumRegistry) (value : Expr)

/-- No value is inferred that takes the option off its source. -/
theorem convert?_nullable (type : TypeRef) :
    task.convert? registry value (.nullable type) type (task.relation (.nullable type) type) = none := by
  rw [relation, TypeRelation.classify_nullable]
  rfl

/-- Where the option is taken off each element and the elements are no enums, an included mapper that
takes the option itself is called for each. -/
theorem convert?_nullableElements (kind target : CollectionKind) (type : TypeRef)
    (notEnum : ¬task.schema.IsEnum type) (found : EnumRegistry × Expr)
    (converted : task.convert? registry value (.collection kind (.nullable type))
      (.collection target type)
      (task.relation (.collection kind (.nullable type)) (.collection target type)) = some found) :
    ∃ delegation, delegation.Takes task.request.delegates task.params.length (.nullable type) type ∧
      found.2 = .collect value (task.elementName (.nullable type))
        (task.delegateCall delegation (.item (task.elementName (.nullable type)) (.nullable type)))
        target := by
  have compatible := task.convert?_compatible _ _ _ _ _ _ converted
  rw [relation, TypeRelation.classify_nullableElements _ _ _ _ _ _ notEnum] at converted compatible
  obtain ⟨delegation, offered, delegated⟩ := TypeRelation.ofDelegates_delegated _ _ _ _ compatible
  obtain ⟨takes, each⟩ := TypeRelation.findDirect?_takes _ _ _ _ _ _ offered
  simp only [delegated, convert?, each, ↓reduceIte, TypeRef.element?, TypeRef.collectionKind?,
    Option.map_some, Option.getD_some, Option.some.injEq] at converted
  rw [← converted]
  exact ⟨delegation, takes, rfl⟩

end MappingTask

end ObjectMapping
