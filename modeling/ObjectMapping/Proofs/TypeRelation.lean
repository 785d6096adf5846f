/-
This file states what the relation of two types says about them. Each relation under which a value can be
converted has its own shape of source and destination.
-/

import ObjectMapping.Proofs.EnumFunction
import ObjectMapping.TypeRelation

namespace ObjectMapping

/-- The types between which a conversion leads. -/
inductive Conversion.Converts : Conversion → TypeRef → TypeRef → Prop
  | widen (source target : Scalar) (wider : source.widensTo target = true) :
      Converts (.widen target) (.scalar source) (.scalar target)
  | wrap (type : TypeRef) : Converts .wrap type (.nullable type)
  | widenAndWrap (source target : Scalar) (wider : source.widensTo target = true) :
      Converts (.widenAndWrap target) (.scalar source) (.nullable (.scalar target))

/-- The types of elements between which an element relation holds. -/
inductive ElementRelation.Relates : ElementRelation → TypeRef → TypeRef → Prop
  | exact (type : TypeRef) : Relates .exact type type
  | enum (key : EnumKey) : Relates (.enum key) key.argument key.result
  | implicit (conversion : Conversion) (source destination : TypeRef)
      (converts : conversion.Converts source destination) :
      Relates (.implicit conversion) source destination

/-- A method of an included mapper that takes the source first and returns the destination, with no
more parameters than can be forwarded; it is the first such method in the order of inclusion. -/
structure Delegation.Takes (delegation : Delegation) (mappers : List IncludedMapper) (arity : Nat)
    (source destination : TypeRef) : Prop where
  included : delegation.mapper ∈ mappers
  method : delegation.method ∈ delegation.mapper.methods
  first : delegation.method.params.head? = some source
  result : delegation.method.result = destination
  fits : delegation.method.params.length ≤ arity
  selected : Delegation.findDirect? mappers delegation.perElement source destination arity = some delegation

/-- The types between which a relation that allows a conversion holds. -/
inductive TypeRelation.Relates (mappers : List IncludedMapper) (arity : Nat) :
    TypeRelation → TypeRef → TypeRef → Prop
  | exact (type : TypeRef) : Relates mappers arity .exact type type
  | enum (key : EnumKey) : Relates mappers arity (.enum key) key.argument key.result
  | implicit (conversion : Conversion) (source destination : TypeRef)
      (converts : conversion.Converts source destination) :
      Relates mappers arity (.implicit conversion) source destination
  | collection (kind target : CollectionKind) (relation : ElementRelation)
      (source destination : TypeRef) (related : relation.Relates source destination) :
      Relates mappers arity (.collection relation target) (.collection kind source)
        (.collection target destination)
  | delegated (delegation : Delegation) (source destination : TypeRef)
      (single : delegation.perElement = false)
      (takes : delegation.Takes mappers arity source destination) :
      Relates mappers arity (.delegated delegation) source destination
  | delegatedElements (kind target : CollectionKind) (delegation : Delegation)
      (source destination : TypeRef) (each : delegation.perElement = true)
      (takes : delegation.Takes mappers arity source destination) :
      Relates mappers arity (.delegated delegation) (.collection kind source)
        (.collection target destination)

/-- The enum behind a type is the type itself, or stands in its option. -/
theorem Schema.enum?_type (schema : Schema) (type : TypeRef) (id : TypeId) (variants : List String)
    (found : schema.enum? type = some (id, variants)) :
    type = if type.isNullable then .nullable (.named id) else .named id := by
  unfold Schema.enum? at found
  split at found
  · next same =>
      obtain ⟨_, _, sameEntry⟩ := Option.map_eq_some_iff.mp found
      cases sameEntry
      cases type <;> simp_all [TypeRef.nonNullable, TypeRef.isNullable]
  · cases found

theorem Schema.enum?_variants (schema : Schema) {type : TypeRef} {id : TypeId} {variants : List String}
    (found : schema.enum? type = some (id, variants)) : schema.variants? id = some variants := by
  unfold Schema.enum? at found
  split at found
  · obtain ⟨_, isKnown, same⟩ := Option.map_eq_some_iff.mp found
    cases same
    exact isKnown
  · cases found

namespace TypeRelation

theorem widening?_some (source destination : TypeRef) (target : Scalar)
    (found : widening? source destination = some target) :
    ∃ narrow : Scalar, source = .scalar narrow ∧ destination = .scalar target ∧
      narrow.widensTo target = true := by
  unfold widening? at found
  split at found
  · next narrow wide =>
      cases wider : narrow.widensTo wide with
      | true =>
          simp only [wider, ↓reduceIte, Option.some.injEq] at found
          exact ⟨narrow, rfl, by rw [found], by rw [← found, wider]⟩
      | false => simp [wider] at found
  · cases found

/-- A built-in conversion leads from the source to the destination. -/
theorem implicit?_converts (source destination : TypeRef) (conversion : Conversion)
    (found : implicit? source destination = some conversion) :
    conversion.Converts source destination := by
  unfold implicit? at found
  cases widened : widening? source destination with
  | some target =>
      obtain ⟨narrow, sameSource, sameDestination, wider⟩ := widening?_some _ _ _ widened
      rw [widened] at found
      cases found
      rw [sameSource, sameDestination]
      exact .widen narrow target wider
  | none =>
      simp only [widened] at found
      split at found
      · next inner =>
          by_cases nullable : source.isNullable = true
          · simp [nullable] at found
          · rw [if_neg nullable] at found
            by_cases same : source = inner
            · rw [if_pos same] at found
              cases found
              rw [same]
              exact .wrap inner
            · rw [if_neg same] at found
              obtain ⟨target, innerWidened, sameConversion⟩ := Option.map_eq_some_iff.mp found
              obtain ⟨narrow, sameSource, sameInner, wider⟩ := widening?_some _ _ _ innerWidened
              rw [← sameConversion, sameSource, sameInner]
              exact .widenAndWrap narrow target wider
      · cases found

/-- A delegation that is found takes the source to the destination. -/
theorem findDirect?_takes (mappers : List IncludedMapper) (perElement : Bool)
    (source destination : TypeRef) (arity : Nat) (delegation : Delegation)
    (found : Delegation.findDirect? mappers perElement source destination arity =
      some delegation) :
    delegation.Takes mappers arity source destination ∧ delegation.perElement = perElement := by
  obtain ⟨mapper, included, inMapper⟩ := List.exists_of_findSome?_eq_some found
  obtain ⟨method, chosen, same⟩ := Option.map_eq_some_iff.mp inMapper
  have accepted := List.find?_some chosen
  simp only [Delegation.accepts, Bool.and_eq_true, beq_iff_eq, decide_eq_true_eq] at accepted
  obtain ⟨⟨result, first⟩, fits⟩ := accepted
  cases same
  exact ⟨⟨included, List.mem_of_find?_eq_some chosen, first, result, fits, found⟩, rfl⟩

/-- Included mappers convert single values, or the elements of two collections. -/
theorem ofDelegates_relates (mappers : List IncludedMapper) (arity : Nat)
    (source destination : TypeRef)
    (compatible : (ofDelegates mappers arity source destination).isCompatible = true) :
    (ofDelegates mappers arity source destination).Relates mappers arity source destination := by
  unfold ofDelegates at compatible ⊢
  cases found : Delegation.find? mappers source destination arity with
  | none => simp [found, isCompatible] at compatible
  | some delegation =>
      unfold Delegation.find? at found
      split at found
      · next sourceElement destinationElement isSource isDestination =>
          obtain ⟨takes, each⟩ := findDirect?_takes _ _ _ _ _ _ found
          cases source <;> cases isSource
          cases destination <;> cases isDestination
          exact .delegatedElements _ _ delegation _ _ each takes
      · obtain ⟨takes, single⟩ := findDirect?_takes _ _ _ _ _ _ found
        exact .delegated delegation source destination single takes
      · cases found

/-- The conversions of enums that a relation asks for. -/
def keys : TypeRelation → List EnumKey
  | .enum key | .collection (.enum key) _ => [key]
  | _ => []

theorem ofDelegates_keys (mappers : List IncludedMapper) (arity : Nat) (source destination : TypeRef) :
    (ofDelegates mappers arity source destination).keys = [] := by
  unfold ofDelegates
  split <;> rfl

theorem ofDelegates_mismatch (mappers : List IncludedMapper) (arity : Nat) (source destination : TypeRef)
    (id : TypeId) (missing : List String) :
    ofDelegates mappers arity source destination ≠ .enumMismatch id missing := by
  unfold ofDelegates
  split <;> nofun

/-- No variant is missing if and only if those of the source are among those of the destination. -/
theorem missingVariants_nil (source destination : List String) :
    missingVariants source destination = [] ↔ source ⊆ destination := by
  rw [missingVariants, List.filter_eq_nil_iff]
  exact forall₂_congr fun variant _ => by simp

section

variable (schema : Schema) (mappers : List IncludedMapper) (arity : Nat) (source destination : TypeRef)

/-- What two types are as enums: a pair that is converted by the function whose key gives both, a pair in which
variants are missing, or no pair of enums. -/
inductive EnumRule : Option (Except (TypeId × List String) EnumKey) → Prop
  | pair (key : EnumKey) (argument : source = key.argument) (result : destination = key.result)
      (fits : key.Fits schema) : EnumRule (some (.ok key))
  | lacking (id : TypeId) (variants missing : List String) (isEnum : schema.variants? id = some variants) :
      EnumRule (some (.error (id, missing)))
  | none : EnumRule none

theorem ofEnums?_rule : EnumRule schema source destination (ofEnums? schema source destination) := by
  unfold ofEnums?
  split
  · next sourceId sourceVariants destinationId destinationVariants isSource isDestination =>
      dsimp only
      split
      · next noneMissing =>
          exact .pair _ (schema.enum?_type source _ _ isSource) (schema.enum?_type destination _ _ isDestination)
            ⟨sourceVariants, destinationVariants, schema.enum?_variants isSource,
              schema.enum?_variants isDestination, (missingVariants_nil _ _).mp (List.isEmpty_iff.mp noneMissing)⟩
      · exact .lacking destinationId destinationVariants _ (schema.enum?_variants isDestination)
  · exact .none

/-- What the types of elements are to each other, if anything. -/
inductive ElementRule : Except (Option (TypeId × List String)) ElementRelation → Prop
  | related (relation : ElementRelation) (relates : relation.Relates source destination)
      (fits : ∀ key, relation = .enum key → key.Fits schema) : ElementRule (.ok relation)
  | lacking (id : TypeId) (variants missing : List String) (isEnum : schema.variants? id = some variants) :
      ElementRule (.error (some (id, missing)))
  | none : ElementRule (.error none)

theorem ofElements_rule : ElementRule schema source destination (ofElements schema source destination) := by
  unfold ofElements
  split
  · next same => exact .related .exact (same ▸ .exact source) nofun
  · have enums := ofEnums?_rule schema source destination
    generalize ofEnums? schema source destination = answer at enums ⊢
    cases enums with
    | pair key argument result fits =>
        refine .related (.enum key) (argument ▸ result ▸ .enum key) fun other same => ?_
        cases same
        exact fits
    | lacking id variants missing isEnum => exact .lacking id variants missing isEnum
    | none =>
        dsimp only
        cases converted : implicit? source destination with
        | none => exact .none
        | some conversion =>
            exact .related (.implicit conversion)
              (.implicit conversion source destination (implicit?_converts _ _ _ converted)) nofun

/-- The rules for two types, each with the relation that it finds between them. -/
inductive ClassifyRule : TypeRelation → Prop
  | exact (same : source = destination) : ClassifyRule .exact
  | option (unwrapped : source = .nullable destination) : ClassifyRule .nullableMismatch
  | enum (key : EnumKey) (argument : source = key.argument) (result : destination = key.result)
      (fits : key.Fits schema) : ClassifyRule (.enum key)
  /-- Variants are missing, in the destination itself or in its elements. -/
  | lacking (id : TypeId) (variants missing : List String) (isEnum : schema.variants? id = some variants) :
      ClassifyRule (.enumMismatch id missing)
  | implicit (conversion : Conversion) (converts : conversion.Converts source destination) :
      ClassifyRule (.implicit conversion)
  | collection (kind target : CollectionKind) (sourceElement destinationElement : TypeRef)
      (relation : ElementRelation) (isSource : source = .collection kind sourceElement)
      (isDestination : destination = .collection target destinationElement)
      (relates : relation.Relates sourceElement destinationElement)
      (fits : ∀ key, relation = .enum key → key.Fits schema) : ClassifyRule (.collection relation target)
  | delegates : ClassifyRule (ofDelegates mappers arity source destination)

theorem ofCollections_rule : ClassifyRule schema mappers arity source destination
    (ofCollections schema mappers arity source destination) := by
  unfold ofCollections
  split
  · next kind sourceElement target destinationElement =>
      have elements := ofElements_rule schema sourceElement destinationElement
      generalize ofElements schema sourceElement destinationElement = answer at elements ⊢
      cases elements with
      | related relation relates fits => exact .collection kind target _ _ relation rfl rfl relates fits
      | lacking id variants missing isEnum => exact .lacking id variants missing isEnum
      | none => exact .delegates
  · exact .delegates

/-- One of the rules relates two types. -/
theorem classify_rule : ClassifyRule schema mappers arity source destination
    (classify schema mappers arity source destination) := by
  unfold classify
  split
  · next same => exact .exact same
  · split
    · next unwrapped => exact .option unwrapped
    · have enums := ofEnums?_rule schema source destination
      generalize ofEnums? schema source destination = answer at enums ⊢
      cases enums with
      | pair key argument result fits => exact .enum key argument result fits
      | lacking id variants missing isEnum => exact .lacking id variants missing isEnum
      | none =>
          dsimp only
          cases converted : implicit? source destination with
          | none => exact ofCollections_rule schema mappers arity source destination
          | some conversion => exact .implicit conversion (implicit?_converts _ _ _ converted)

/-- Whatever two types are classified as, if it allows a conversion it holds between them. -/
theorem classify_relates (compatible : (classify schema mappers arity source destination).isCompatible = true) :
    (classify schema mappers arity source destination).Relates mappers arity source destination := by
  have rule := classify_rule schema mappers arity source destination
  generalize classify schema mappers arity source destination = relation at rule compatible ⊢
  cases rule with
  | exact same => exact same ▸ .exact source
  | option | lacking => cases compatible
  | «enum» key argument result => exact argument ▸ result ▸ .enum key
  | implicit conversion converts => exact .implicit conversion source destination converts
  | collection kind target sourceElement destinationElement relation isSource isDestination relates =>
      exact isSource ▸ isDestination ▸ .collection kind target relation _ _ relates
  | delegates => exact ofDelegates_relates mappers arity source destination compatible

/-- Whatever conversions of enums a relation asks for, the enums have the variants for them. -/
theorem classify_fits : ∀ key ∈ (classify schema mappers arity source destination).keys, key.Fits schema := by
  have rule := classify_rule schema mappers arity source destination
  generalize classify schema mappers arity source destination = relation at rule ⊢
  cases rule with
  | exact | option | lacking | implicit => nofun
  | «enum» key _ _ fits => exact List.forall_mem_singleton.mpr fits
  | collection _ _ _ _ relation _ _ _ fits =>
      cases relation with
      | «enum» key => exact List.forall_mem_singleton.mpr (fits key rfl)
      | exact | implicit => nofun
  | delegates =>
      rw [ofDelegates_keys]
      nofun

end

/-- Variants are only missed in an enum. -/
theorem classify_mismatch {schema : Schema} {mappers : List IncludedMapper} {arity : Nat}
    {source destination : TypeRef} {id : TypeId} {missing : List String}
    (found : classify schema mappers arity source destination = .enumMismatch id missing) :
    ∃ variants, schema.variants? id = some variants := by
  have rule := classify_rule schema mappers arity source destination
  generalize classify schema mappers arity source destination = relation at rule found
  cases rule with
  | exact | option | «enum» | implicit | collection => cases found
  | lacking id variants missing isEnum =>
      cases found
      exact ⟨variants, isEnum⟩
  | delegates => exact absurd found (ofDelegates_mismatch mappers arity source destination id missing)

end TypeRelation

end ObjectMapping
