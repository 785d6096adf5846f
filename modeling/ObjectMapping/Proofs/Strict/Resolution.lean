/-
This file proves that the strict resolution of a request never breaks off against a built schema. It makes the
same resolution as the one that takes a default where something is missing.
-/

import ObjectMapping.Proofs.Resolution.Rules
import ObjectMapping.Proofs.Schema.Places
import ObjectMapping.Proofs.Schema.WellFormed
import ObjectMapping.Proofs.Strict.Basic
import ObjectMapping.Proofs.TypeRelation

namespace ObjectMapping

namespace Strict

/-- A place in the list is that of an item. -/
theorem item?_known {α : Type} {items : List α} {place : Option Nat} (inRange : ∀ index ∈ place, index < items.length) :
    item? items place = .ok (place.bind fun index => items[index]?) := by
  cases place with
  | none => rfl
  | some index =>
      rw [Option.bind_some, List.getElem?_eq_getElem (inRange index rfl), item?, item,
        List.getElem?_eq_getElem (inRange index rfl)]
      rfl

theorem member?_known (type : StructType) (name : String) : member? type name = .ok (type.member? name) :=
  item?_known fun _ entered => type.places_inRange name entered

theorem memberIgnoringCase?_known (type : StructType) (name : String) :
    memberIgnoringCase? type name = .ok (type.memberIgnoringCase? name) :=
  item?_known fun _ entered => type.placesIgnoringCase_inRange _ entered

/-- A known type is read under the name that the schema has for it. -/
theorem descriptor_known {schema : Schema} {id : TypeId} (known : (schema.get? id).isSome = true) :
    ∃ found, schema.get? id = some found ∧ descriptor schema id = .ok found ∧ schema.nameOf id = found.name := by
  obtain ⟨found, isFound⟩ := Option.isSome_iff_exists.mp known
  exact ⟨found, isFound, by rw [descriptor, isFound],
    by rw [Schema.nameOf, Schema.identOf, isFound, TypeDescriptor.name]⟩

/-- A function between known enums is added if need be, and is there. -/
theorem register_known {schema : Schema} (registry : EnumRegistry) {key : EnumKey}
    (source : (schema.get? key.source).isSome = true)
    (destination : (schema.get? key.destination).isSome = true) :
    register schema registry key = .ok (registry.register schema key) := by
  obtain ⟨sourceFound, isSource, sourceRead, sourceName⟩ := descriptor_known source
  obtain ⟨destinationFound, _, destinationRead, destinationName⟩ := descriptor_known destination
  unfold register EnumRegistry.register
  cases found : registry.get? key with
  | some function => simp only [ok_bind, found]
  | none =>
      have variants : schema.variants? key.source = sourceFound.variants? := by
        rw [Schema.variants?, isSource, Option.bind_some]
      have others : registry.functions.find? (·.key == key) = none := found
      simp only [sourceRead, destinationRead, ok_bind, sourceName, destinationName, variants, EnumRegistry.get?,
        List.find?_append, others, List.find?_cons, BEq.rfl, Option.none_or]

end Strict

/-- An option names what is in it. -/
theorem TypeRef.nonNullable_namedTypes (type : TypeRef) : type.nonNullable.namedTypes = type.namedTypes := by
  cases type <;> rfl

theorem TypeRef.element?_namedTypes {type element : TypeRef} (found : type.element? = some element) :
    element.namedTypes = type.namedTypes := by
  cases type <;> cases found
  rfl

/-- What has variants is there. -/
theorem Schema.variants?_known {schema : Schema} {id : TypeId} {variants : List String}
    (found : schema.variants? id = some variants) : (schema.get? id).isSome = true := by
  obtain ⟨descriptor, present, _⟩ := Option.bind_eq_some_iff.mp found
  rw [present]
  rfl

/-- What a relation asks the schema for by an id is there. -/
def TypeRelation.IsKnown (relation : TypeRelation) (schema : Schema) : Prop :=
  (∀ key ∈ relation.keys,
      (schema.get? key.source).isSome = true ∧ (schema.get? key.destination).isSome = true) ∧
    ∀ id missing, relation = .enumMismatch id missing → (schema.get? id).isSome = true

/-- What a task asks for is there: its first parameter, the types of its source, and the enums of its pairs. -/
structure MappingTask.IsSafe (task : MappingTask) : Prop where
  sourceParam : task.params[0]? = some task.sourceParam
  members : ∀ member ∈ task.sourceStruct.members, ∀ id ∈ member.type.namedTypes,
    (task.schema.get? id).isSome = true
  pairs : ∀ pair ∈ task.request.directives.enums,
    (task.schema.get? pair.source).isSome = true ∧ (task.schema.get? pair.destination).isSome = true

theorem SchemaDraft.build_namedTypes (draft : SchemaDraft) (schema : Schema) (built : draft.build = .ok schema)
    (id : TypeId) (descriptor : TypeDescriptor) (type : StructType) (found : schema.get? id = some descriptor)
    (isStruct : descriptor.kind = .struct type) :
    ∀ member ∈ type.members, ∀ named ∈ member.type.namedTypes, (schema.get? named).isSome = true := by
  have whole : descriptor = ⟨descriptor.id, descriptor.ident, .struct type⟩ := by rw [← isStruct]
  have clean := (draft.build_at schema built id descriptor found).2
  rw [whole, Schema.descriptorFault?_none] at clean
  intro member present named isNamed
  rw [← Option.not_isNone, Bool.not_eq_true', ← Bool.not_eq_true, schema.get?_isNone, Nat.not_le]
  exact clean.2.1 member present named isNamed

namespace Strict

variable {task : MappingTask}

section

variable (safe : task.IsSafe)

include safe

theorem sourceParam_known : sourceParam task = .ok task.sourceParam := by
  rw [sourceParam, item, safe.sourceParam]

theorem read_known (member : Member) : read task member = .ok (task.read member) := by
  rw [read, sourceParam_known safe, ok_bind, MappingTask.read]

end

theorem sourceMember?_known (name : String) : sourceMember? task name = .ok (task.sourceMember? name) := by
  rw [sourceMember?, member?_known, ok_bind, MappingTask.sourceMember?]

theorem elementName_known {element : TypeRef}
    (known : ∀ id ∈ element.namedTypes, (task.schema.get? id).isSome = true) :
    elementName task element = .ok (task.elementName element) := by
  unfold elementName MappingTask.elementName
  cases plain : element.nonNullable with
  | named id =>
      have present : id ∈ element.namedTypes := by
        rw [← TypeRef.nonNullable_namedTypes, plain]
        exact List.mem_cons_self
      obtain ⟨found, _, isRead, sameName⟩ := descriptor_known (known id present)
      simp only [isRead, ok_bind, sameName]
  | scalar | foreign | nullable | collection => rfl

theorem enumCall_known (registry : EnumRegistry) {key : EnumKey} (value : Expr)
    (known : (task.schema.get? key.source).isSome = true ∧ (task.schema.get? key.destination).isSome = true) :
    enumCall task registry key value = .ok (task.enumCall registry key value) := by
  simp only [enumCall, register_known registry known.1 known.2, ok_bind, MappingTask.enumCall]

/-- A conversion that a relation between known types allows is made. -/
theorem convert?_known (registry : EnumRegistry) (value : Expr) {source destination : TypeRef}
    {relation : TypeRelation} (asks : relation.IsKnown task.schema)
    (known : ∀ id ∈ source.namedTypes, (task.schema.get? id).isSome = true) :
    convert? task registry value source destination relation =
      .ok (task.convert? registry value source destination relation) := by
  have named : ∀ element, source.element? = some element →
      elementName task element = .ok (task.elementName element) := by
    intro element found
    refine elementName_known ?_
    rw [TypeRef.element?_namedTypes found]
    exact known
  cases relation with
  | exact | implicit | nullableMismatch | enumMismatch | incompatible => rfl
  | «enum» key =>
      rw [convert?, enumCall_known registry value (asks.1 key List.mem_cons_self), ok_bind, MappingTask.convert?]
  | collection relation target =>
      cases found : source.element? with
      | none => simp only [convert?, found, MappingTask.convert?, Option.map_none]
      | some element =>
          simp only [convert?, found, named element found, ok_bind, MappingTask.convert?, Option.map_some]
          cases relation with
          | exact | implicit => rfl
          | «enum» key =>
              simp only [convertElement, enumCall_known registry _ (asks.1 key List.mem_cons_self), ok_bind,
                MappingTask.convertElement]
  | delegated delegation =>
      cases found : source.element? with
      | none =>
          simp only [convert?, found, MappingTask.convert?, Option.map_none]
          split <;> rfl
      | some element =>
          simp only [convert?, found, named element found, ok_bind, MappingTask.convert?, Option.map_some]
          split <;> rfl

theorem relation_isKnown (source destination : TypeRef) :
    (task.relation source destination).IsKnown task.schema := by
  constructor
  · intro key asked
    obtain ⟨_, _, isSource, isDestination, _⟩ := TypeRelation.classify_fits _ _ _ _ _ key asked
    exact ⟨Schema.variants?_known isSource, Schema.variants?_known isDestination⟩
  · intro id missing same
    obtain ⟨_, isEnum⟩ := TypeRelation.classify_mismatch same
    exact Schema.variants?_known isEnum

theorem claims_known (constructor : Constructor) : claims task constructor = .ok (task.claims constructor) := by
  refine Eq.trans ?_ List.foldlM_pure
  unfold claims
  congr 1
  funext claimed parameter
  rw [memberIgnoringCase?_known, ok_bind]
  cases task.destinationStruct.memberIgnoringCase? parameter.name <;> rfl

theorem feed?_known (parameter : Parameter) : feed? task parameter = .ok (task.feed? parameter) := by
  simp only [feed?, memberIgnoringCase?_known, ok_bind, MappingTask.feed?]

theorem feedAll_known (parameters : List Parameter) :
    feedAll task parameters = .ok (parameters.mapM task.feed?) := by
  induction parameters with
  | nil => rfl
  | cons parameter rest inductionHypothesis =>
      rw [feedAll, feed?_known, ok_bind, inductionHypothesis, List.mapM_cons]
      cases task.feed? parameter with
      | none => rfl
      | some found => cases rest.mapM task.feed? <;> rfl

/-- A collection of elements of a known type is collected. -/
theorem collected_known (directive : MapCollection) {element : Option TypeRef}
    (known : ∀ type ∈ element, ∀ id ∈ type.namedTypes, (task.schema.get? id).isSome = true)
    (collect : String → Expr → Expr) :
    collected task directive element collect = .ok (task.collected directive element collect) := by
  have made : elementBinder task element = .ok ((element.map task.elementName).getD "item") := by
    cases element with
    | none => rfl
    | some type => exact elementName_known (known type rfl)
  have bound : binderOf task directive.item element = .ok (task.binderOf directive.item element) := by
    unfold binderOf MappingTask.binderOf
    cases directive.item with
    | path => exact made
    | closure closure =>
        dsimp only
        cases closure.firstParam? with
        | none => exact made
        | some name => rfl
  rw [collected, bound, ok_bind, MappingTask.collected]
  cases directive.item.inline? task.params true (task.binderOf directive.item element) <;> rfl

theorem mismatch_known (member sourceMember : Member) {relation : TypeRelation}
    (asks : relation.IsKnown task.schema) :
    mismatch task member sourceMember relation = .ok (task.mismatch member sourceMember relation) := by
  cases relation with
  | enumMismatch id missing =>
      obtain ⟨found, isFound, isRead, _⟩ := descriptor_known (asks.2 id missing rfl)
      rw [mismatch, isRead, ok_bind, MappingTask.mismatch, Schema.identOf, isFound]
  | _ => rfl

section

variable (safe : task.IsSafe)

include safe

theorem explicitConstructor_known (constructor : Constructor) (arguments : List Transform) :
    explicitConstructor task constructor arguments = .ok (task.explicitConstructor constructor arguments) := by
  have written : writtenArgument task = fun pair => pure (task.writtenArgument pair) := by
    funext pair
    rw [writtenArgument, sourceParam_known safe, ok_bind, MappingTask.writtenArgument]
    cases pair.2.inline? task.params false task.sourceParam <;> rfl
  rw [explicitConstructor, claims_known, ok_bind, written, List.mapM_pure, MappingTask.explicitConstructor_written]
  rfl

/-- The value of a member of the source is converted as the relation of its type allows. -/
theorem convertMember_known (registry : EnumRegistry) {member : Member}
    (present : member ∈ task.sourceStruct.members) (destination : TypeRef) :
    (read task member >>= fun value => convert? task registry value member.type destination
        (task.relation member.type destination)) =
      .ok (task.convert? registry (task.read member) member.type destination
        (task.relation member.type destination)) := by
  rw [read_known safe, ok_bind]
  exact convert?_known registry _ (relation_isKnown _ _) (safe.members member present)

/-- Arguments are built for parameters that the source feeds. -/
theorem buildArguments_known (registry : EnumRegistry) {found : List MatchedParameter}
    (fed : ∀ entry ∈ found, ∃ parameter, task.feed? parameter = some entry) :
    buildArguments task registry found = .ok (task.buildArguments registry found) := by
  induction found generalizing registry with
  | nil => rfl
  | cons entry rest inductionHypothesis =>
      obtain ⟨⟨parameter, isFed⟩, fedRest⟩ := List.forall_mem_cons.mp fed
      obtain ⟨sameParameter, present, _, isRelation, _⟩ := task.feed?_some parameter entry isFed
      have converted := convertMember_known safe registry present parameter.type
      rw [read_known safe, ok_bind, ← sameParameter] at converted
      rw [← sameParameter] at isRelation
      rw [buildArguments, read_known safe, ok_bind, isRelation, converted, ok_bind, MappingTask.buildArguments,
        isRelation]
      cases task.convert? registry (task.read entry.member) entry.member.type entry.parameter.type
          (task.relation entry.member.type entry.parameter.type) with
      | none => exact inductionHypothesis registry fedRest
      | some result =>
          dsimp only
          rw [inductionHypothesis result.1 fedRest, ok_bind]

/-- The choice of the constructor never breaks off. -/
theorem resolveConstructor_known (registry : EnumRegistry) :
    resolveConstructor task registry = .ok (task.resolveConstructor registry) := by
  have only : ∀ constructor, onlyConstructor task registry constructor =
      .ok (task.onlyConstructor registry constructor) := by
    intro constructor
    rw [onlyConstructor, feedAll_known, ok_bind, MappingTask.onlyConstructor]
    cases fed : constructor.parameters.mapM task.feed? with
    | none => rfl
    | some found =>
        have eachFed := forall₂_right ((mapM_some _ _ _).mp fed)
        dsimp only
        rw [buildArguments_known safe registry fun entry present => ?_, ok_bind, claims_known, ok_bind]
        obtain ⟨parameter, _, isFed⟩ := eachFed entry present
        exact ⟨parameter, isFed⟩
  unfold resolveConstructor MappingTask.resolveConstructor
  cases task.request.directives.constructor with
  | none =>
      unfold inferConstructor MappingTask.inferConstructor
      cases task.destinationStruct.constructors with
      | nil => rfl
      | cons constructor others =>
          cases others with
          | nil =>
              dsimp only
              split
              · rfl
              · exact only constructor
          | cons => rfl
  | some choice =>
      cases choice with
      | empty => rfl
      | arguments arguments location =>
          dsimp only
          cases task.destinationStruct.constructors.find? (·.parameters.length == arguments.length) with
          | none => rfl
          | some constructor =>
              dsimp only
              rw [explicitConstructor_known safe, ok_bind]

theorem mappedByUser_known (custom : MapMember) : mappedByUser task custom = .ok (task.mappedByUser custom) := by
  rw [mappedByUser, sourceParam_known safe, ok_bind, MappingTask.mappedByUser]
  cases custom.source.inline? task.params false task.sourceParam <;> rfl

theorem collectedByUser?_known (member : Member) (directive : MapCollection) :
    collectedByUser? task member directive = .ok (task.collectedByUser? member directive) := by
  unfold collectedByUser? MappingTask.collectedByUser?
  dsimp only
  cases directive.source with
  | some source =>
      dsimp only
      rw [sourceParam_known safe, ok_bind]
      cases source.inline? task.params false task.sourceParam with
      | none => rfl
      | some text =>
          dsimp only
          rw [collected_known directive (by simp), ok_bind]
  | none =>
      dsimp only
      rw [sourceMember?_known, ok_bind]
      cases found : task.sourceMember? member.name with
      | none => rfl
      | some sourceMember =>
          obtain ⟨present, _⟩ := MappingTask.sourceMember?_some found
          have known := safe.members sourceMember present
          dsimp only
          rw [read_known safe, ok_bind, collected_known directive fun type isElement => ?_, ok_bind, Option.map_some]
          rw [TypeRef.element?_namedTypes isElement]
          exact known

theorem infer_known (registry : EnumRegistry) (member : Member) :
    infer task registry member = .ok (task.infer registry member) := by
  rw [infer, sourceMember?_known, ok_bind, MappingTask.infer]
  cases found : task.sourceMember? member.name with
  | none => rfl
  | some sourceMember =>
      obtain ⟨present, _⟩ := MappingTask.sourceMember?_some found
      have converted := convertMember_known safe registry present member.type
      rw [read_known safe, ok_bind] at converted
      dsimp only
      rw [read_known safe, ok_bind, converted, ok_bind]
      cases task.convert? registry (task.read sourceMember) sourceMember.type member.type
          (task.relation sourceMember.type member.type) with
      | some result => rfl
      | none =>
          dsimp only
          rw [mismatch_known member sourceMember (relation_isKnown _ _), ok_bind]

theorem resolveMember_known (registry : EnumRegistry) (member : Member) :
    resolveMember task registry member = .ok (task.resolveMember registry member) := by
  unfold resolveMember MappingTask.resolveMember
  dsimp only
  split
  · rfl
  · split
    · rfl
    · cases task.request.directives.ignore? member.name with
      | some ignore => rfl
      | none =>
          cases task.request.directives.mapMember? member.name with
          | some custom =>
              dsimp only
              rw [mappedByUser_known safe, ok_bind]
          | none =>
              cases task.request.directives.collection? member.name with
              | none => exact infer_known safe registry member
              | some directive =>
                  dsimp only
                  rw [collectedByUser?_known safe, ok_bind, Option.bind_some]
                  cases task.collectedByUser? member directive with
                  | some verdict => rfl
                  | none => exact infer_known safe registry member

/-- No member breaks the resolution off. -/
theorem resolveMembers_known (claimed : List String) (registry : EnumRegistry) (members : List Member) :
    resolveMembers task claimed registry members = .ok (task.resolveMembers claimed registry members) := by
  induction members generalizing registry with
  | nil => rfl
  | cons member rest inductionHypothesis =>
      have settled : settle task claimed registry member = .ok (task.settle claimed registry member) := by
        rw [settle, resolveMember_known safe, MappingTask.settle]
        split <;> rfl
      rw [resolveMembers, settled, ok_bind, MappingTask.resolveMembers_cons]
      dsimp only
      rw [inductionHypothesis, ok_bind]

theorem registerPair_known (registry : EnumRegistry) {pair : MapEnum}
    (given : pair ∈ task.request.directives.enums) :
    registerPair task registry pair = .ok (task.registerPair registry pair) := by
  obtain ⟨source, destination⟩ := safe.pairs pair given
  have registered := @register_known task.schema registry ⟨pair.source, pair.destination, false, false⟩ source
    destination
  obtain ⟨sourceFound, isSource, sourceRead, _⟩ := descriptor_known source
  obtain ⟨destinationFound, isDestination, destinationRead, _⟩ := descriptor_known destination
  simp only [registerPair, sourceRead, destinationRead, ok_bind, registered, MappingTask.registerPair,
    Schema.variants?, Schema.identOf, isSource, isDestination, Option.bind_some]
  cases sourceFound.variants? with
  | none => rfl
  | some sourceVariants =>
      cases destinationFound.variants? with
      | none => rfl
      | some destinationVariants =>
          dsimp only
          split <;> rfl

theorem registerPairs_known (registry : EnumRegistry) {pairs : List MapEnum}
    (given : pairs ⊆ task.request.directives.enums) :
    registerPairs task registry pairs = .ok (task.registerPairs registry pairs) := by
  induction pairs generalizing registry with
  | nil => rfl
  | cons pair rest inductionHypothesis =>
      obtain ⟨isGiven, restGiven⟩ := List.cons_subset.mp given
      rw [registerPairs, registerPair_known safe registry isGiven, ok_bind, MappingTask.registerPairs]
      dsimp only
      rw [inductionHypothesis _ restGiven, ok_bind]

/-- A safe task is resolved to its end. -/
theorem resolveTask_known : resolveTask task = .ok task.resolve := by
  rw [resolveTask, registerPairs_known safe .empty (List.Subset.refl _), ok_bind, MappingTask.resolve]
  dsimp only
  rw [resolveConstructor_known safe, ok_bind, resolveMembers_known safe, ok_bind]

end

theorem stray?_known (type : StructType) (targets : List (String × Location)) :
    stray? type targets = .ok (targets.find? fun target => (type.member? target.1).isNone) := by
  induction targets with
  | nil => rfl
  | cons target rest inductionHypothesis =>
      rw [stray?, member?_known, ok_bind, List.find?_cons, inductionHypothesis]
      cases type.member? target.1 <;> rfl

theorem enumFault?_known (request : Request) (schema : Schema) (id : TypeId) :
    enumFault? request schema id = .ok (request.enumFault? schema id) := by
  unfold enumFault? Request.enumFault?
  cases found : schema.get? id with
  | none => rfl
  | some present =>
      dsimp only
      cases present.kind with
      | «enum» => rfl
      | struct => simp only [descriptor, found, ok_bind]

theorem enumsFault?_known (request : Request) (schema : Schema) (ids : List TypeId) :
    enumsFault? request schema ids = .ok (ids.findSome? (request.enumFault? schema)) := by
  induction ids with
  | nil => rfl
  | cons id rest inductionHypothesis =>
      rw [enumsFault?, enumFault?_known, ok_bind, List.findSome?_cons, inductionHypothesis]
      cases request.enumFault? schema id <;> rfl

theorem decided_bind {α β : Type} (result : Except Fault α) {next : α → ExceptT Fault (Except Panic) β}
    {total : α → Except Fault β} (same : ∀ value, next value = decided (total value)) :
    decided result >>= next = decided (result >>= total) := by
  cases result with
  | error fault => rfl
  | ok value => exact same value

theorem lift_bind {α β : Type} (value : α) (next : α → ExceptT Fault (Except Panic) β) :
    ExceptT.lift (.ok value) >>= next = next value :=
  rfl

/-- The check of a request never breaks off. -/
theorem toTask_known (request : Request) (schema : Schema) :
    toTask request schema = decided (request.toTask schema) := by
  refine decided_bind _ fun ⟨sourceParam, sourceId⟩ => decided_bind _ fun ⟨source, sourceStruct⟩ =>
    decided_bind _ fun destinationId => decided_bind _ fun ⟨destination, destinationStruct⟩ => ?_
  dsimp only
  rw [stray?_known, lift_bind]
  cases request.directives.targets.find? fun target => (destinationStruct.member? target.1).isNone with
  | some target => rfl
  | none =>
      dsimp only
      rw [enumsFault?_known, lift_bind]
      cases (request.directives.enums.flatMap fun pair => [pair.source, pair.destination]).findSome?
        (request.enumFault? schema) <;> rfl

end Strict

/-- An accepted request asks a built schema for nothing that it does not hold. -/
theorem MappingTask.IsFor.isSafe {task : MappingTask} {request : Request} {schema : Schema}
    (isFor : task.IsFor request schema) {draft : SchemaDraft} (built : draft.build = .ok schema) : task.IsSafe := by
  obtain ⟨rfl, rfl, ⟨id, others, params, found, isStruct⟩, _, _, enums⟩ := isFor
  refine ⟨?sourceParam, ?members, ?pairs⟩
  case sourceParam =>
    rw [MappingTask.params, Request.paramNames, params]
    rfl
  case members => exact draft.build_namedTypes task.schema built id task.source task.sourceStruct found isStruct
  case pairs =>
    intro pair given
    obtain ⟨⟨_, source⟩, _, destination⟩ := enums pair given
    exact ⟨Schema.variants?_known source, Schema.variants?_known destination⟩

/-- Nothing breaks off the resolution of a request against a built schema. -/
theorem Request.resolve_strict (draft : SchemaDraft) (schema : Schema) (request : Request)
    (built : draft.build = .ok schema) :
    (Strict.resolve request schema).run = .ok (request.resolve schema) := by
  unfold Strict.resolve resolve
  rw [Strict.toTask_known]
  cases accepted : request.toTask schema with
  | error fault => rfl
  | ok task =>
      have safe := (request.toTask_ok schema task accepted).isSafe built
      change (ExceptT.lift (Strict.resolveTask task)).run = _
      rw [Strict.resolveTask_known safe]
      rfl

end ObjectMapping
