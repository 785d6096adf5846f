/-
This file runs the resolution of a request twice: once on a task, and once on a task about the same types under
other ids, whose source answers alike to the names that the destination asks for. Step by step the second run
makes the counterpart of what the first makes.
-/

import ObjectMapping.Proofs.Renumbering.Relation
import ObjectMapping.Proofs.Resolution.Rules

namespace ObjectMapping

/-- A member of the second source that says the same as one of the first, wherever it stands. -/
def Member.Counterpart (renumber : Equiv.Perm TypeId) (member other : Member) : Prop :=
  other.toMemberSpec = member.toMemberSpec.renumbered renumber

namespace Member.Counterpart

variable {renumber : Equiv.Perm TypeId} {member other : Member} (same : member.Counterpart renumber other)

include same

theorem type : other.type = member.type.renumbered renumber :=
  Eq.trans (congrArg MemberSpec.type same) rfl

theorem readable : other.readable = member.readable :=
  Eq.trans (congrArg MemberSpec.readable same) rfl

end Member.Counterpart

/-- A task about the same types under other ids. Of the second source it matters only what it has under the
names of the destination. -/
structure MappingTask.Mirrors (renumber : Equiv.Perm TypeId) (task other : MappingTask) : Prop where
  schemas : task.schema.Mirrors renumber other.schema
  request : other.request = task.request.renumbered renumber
  source : other.source.ident = task.source.ident
  sourceParam : other.sourceParam = task.sourceParam
  destination : other.destination.ident = task.destination.ident
  members : other.destinationStruct.members = task.destinationStruct.members.map (·.renumbered renumber)
  constructors : other.destinationStruct.constructors =
    task.destinationStruct.constructors.map (·.renumbered renumber)
  named : ∀ member ∈ task.destinationStruct.members,
    Option.Rel (Member.Counterpart renumber) (task.sourceStruct.member? member.name)
      (other.sourceStruct.member? member.name)
  fed : ∀ constructor ∈ task.destinationStruct.constructors, ∀ parameter ∈ constructor.parameters,
    Option.Rel (Member.Counterpart renumber) (task.sourceStruct.memberIgnoringCase? parameter.name)
      (other.sourceStruct.memberIgnoringCase? parameter.name)

/-- A parameter that is fed in both runs, from members that say the same. -/
structure MatchedParameter.Counterpart (renumber : Equiv.Perm TypeId) (found other : MatchedParameter) :
    Prop where
  parameter : other.parameter = found.parameter.renumbered renumber
  member : found.member.Counterpart renumber other.member
  relation : other.relation = found.relation.renumbered renumber

section

variable (renumber : Equiv.Perm TypeId)

theorem Conversion.apply_renumbered (conversion : Conversion) (value : Expr) :
    conversion.apply (value.renumbered renumber) = (conversion.apply value).renumbered renumber := by
  cases conversion <;> rfl

theorem Expr.allRenumbered_params (names : List String) :
    allRenumbered renumber (names.map .param) = names.map .param := by
  induction names with
  | nil => rfl
  | cons name rest inductionHypothesis => rw [List.map_cons, allRenumbered, inductionHypothesis, renumbered]

theorem Verdict.outcome_renumbered (verdict : Verdict) :
    (verdict.renumbered renumber).outcome = verdict.outcome := by
  cases verdict <;> rfl

theorem Verdict.diagnostic?_renumbered (verdict : Verdict) :
    (verdict.renumbered renumber).diagnostic? = verdict.diagnostic? := by
  cases verdict <;> rfl

theorem MemberResult.assignment?_renumbered (result : MemberResult) :
    (result.renumbered renumber).assignment? = result.assignment?.map (·.renumbered renumber) := by
  obtain ⟨member, verdict⟩ := result
  cases verdict <;> rfl

theorem MemberResult.outcome_renumbered (result : MemberResult) :
    (result.renumbered renumber).outcome = result.outcome :=
  congrArg (MemberOutcome.mk _) (result.verdict.outcome_renumbered renumber)

@[simp]
theorem TypeRelation.isCompatible_renumbered (relation : TypeRelation) :
    (relation.renumbered renumber).isCompatible = relation.isCompatible := by
  cases relation <;> rfl

end

namespace MappingTask

theorem writtenArgument_renumbered (renumber : Equiv.Perm TypeId) (task : MappingTask)
    (pair : Parameter × Transform) :
    (task.writtenArgument pair).toOption.map (·.renumbered renumber) = (task.writtenArgument pair).toOption := by
  unfold writtenArgument
  split <;> rfl

end MappingTask

/-- Items that are mapped alike one by one are mapped alike together, or neither list is mapped. -/
theorem mapM_rel {α β γ δ : Type} {related : β → δ → Prop} {counterpart : α → γ} {step : α → Option β}
    {otherStep : γ → Option δ} {items : List α}
    (alike : ∀ item ∈ items, Option.Rel related (step item) (otherStep (counterpart item))) :
    Option.Rel (List.Forall₂ related) (items.mapM step) ((items.map counterpart).mapM otherStep) := by
  induction items with
  | nil => exact .some .nil
  | cons item rest inductionHypothesis =>
      obtain ⟨ofItem, ofRest⟩ := List.forall_mem_cons.mp alike
      have together := inductionHypothesis ofRest
      rw [List.map_cons, List.mapM_cons, List.mapM_cons]
      generalize step item = found at ofItem ⊢
      generalize otherStep (counterpart item) = other at ofItem ⊢
      generalize rest.mapM step = further at together ⊢
      generalize (rest.map counterpart).mapM otherStep = others at together ⊢
      cases ofItem with
      | none => exact .none
      | some pair =>
          cases together with
          | none => exact .none
          | some pairs => exact .some (.cons pair pairs)

namespace MappingTask.Mirrors

variable {renumber : Equiv.Perm TypeId} {task other : MappingTask} (mirrors : task.Mirrors renumber other)
  (registry : EnumRegistry)

include mirrors

theorem params : other.params = task.params := by
  simp [MappingTask.params, Request.paramNames, mirrors.request, Request.renumbered, MapperMethod.renumbered,
    Parameter.renumbered, Function.comp_def]

theorem relation (source destination : TypeRef) :
    other.relation (source.renumbered renumber) (destination.renumbered renumber) =
      (task.relation source destination).renumbered renumber := by
  have delegates : other.request.delegates = task.request.delegates.map (·.renumbered renumber) := by
    rw [mirrors.request]
    rfl
  rw [MappingTask.relation, delegates, mirrors.params]
  exact mirrors.schemas.classify _ _ source destination

theorem elementName (element : TypeRef) :
    other.elementName (element.renumbered renumber) = task.elementName element := by
  unfold MappingTask.elementName
  rw [mirrors.params, TypeRef.nonNullable_renumbered]
  cases element.nonNullable with
  | named id => simp only [TypeRef.renumbered, mirrors.schemas.nameOf]
  | scalar | foreign | nullable | collection => rfl

theorem enumCall (key : EnumKey) (value : Expr) :
    other.enumCall (registry.renumbered renumber) (key.renumbered renumber) (value.renumbered renumber) =
      Prod.map (·.renumbered renumber) (·.renumbered renumber) (task.enumCall registry key value) := by
  unfold MappingTask.enumCall
  rw [mirrors.schemas.register]
  rfl

theorem delegateCall (delegation : Delegation) (value : Expr) :
    other.delegateCall (delegation.renumbered renumber) (value.renumbered renumber) =
      (task.delegateCall delegation value).renumbered renumber := by
  unfold MappingTask.delegateCall
  rw [mirrors.params, Expr.renumbered, Expr.allRenumbered, Expr.allRenumbered_params]
  simp [Delegation.renumbered, DelegateMethod.renumbered, IncludedMapper.renumbered]

theorem convertElement (value : Expr) (relation : ElementRelation) :
    other.convertElement (registry.renumbered renumber) (value.renumbered renumber)
        (relation.renumbered renumber) =
      Prod.map (·.renumbered renumber) (·.renumbered renumber) (task.convertElement registry value relation) := by
  cases relation with
  | exact => rfl
  | enum key => exact mirrors.enumCall registry key value
  | implicit conversion => exact congrArg (Prod.mk _) (conversion.apply_renumbered renumber value)

/-- The value of the second run is converted like that of the first. -/
theorem convert? (value : Expr) (source destination : TypeRef) (relation : TypeRelation) :
    other.convert? (registry.renumbered renumber) (value.renumbered renumber) (source.renumbered renumber)
        (destination.renumbered renumber) (relation.renumbered renumber) =
      (task.convert? registry value source destination relation).map
        (Prod.map (·.renumbered renumber) (·.renumbered renumber)) := by
  have item (element : TypeRef) :
      Expr.item (task.elementName element) (element.renumbered renumber) =
        (Expr.item (task.elementName element) element).renumbered renumber := rfl
  cases relation with
  | exact | nullableMismatch | enumMismatch | incompatible => rfl
  | enum key => exact congrArg some (mirrors.enumCall registry key value)
  | implicit conversion =>
      exact congrArg (fun converted => some (_, converted)) (conversion.apply_renumbered renumber value)
  | collection relation target =>
      simp only [TypeRelation.renumbered, MappingTask.convert?, TypeRef.element?_renumbered]
      cases source.element? with
      | none => rfl
      | some element =>
          simp only [Option.map_some, mirrors.elementName, item, mirrors.convertElement]
          rfl
  | delegated delegation =>
      have sameSort : (delegation.renumbered renumber).perElement = delegation.perElement := rfl
      simp only [TypeRelation.renumbered, MappingTask.convert?, sameSort, TypeRef.element?_renumbered,
        TypeRef.collectionKind?_renumbered, mirrors.delegateCall]
      split
      · cases source.element? with
        | none => rfl
        | some element =>
            simp only [Option.map_some, mirrors.elementName, item, mirrors.delegateCall]
            rfl
      · rfl

theorem read {member counterpart : Member} (same : member.Counterpart renumber counterpart) :
    other.read counterpart = (task.read member).renumbered renumber := by
  obtain ⟨spec, _, _, _⟩ := counterpart
  cases same
  rw [MappingTask.read, mirrors.sourceParam]
  rfl

section Members

variable {member : Member}

theorem sourceMember? (present : member ∈ task.destinationStruct.members) :
    Option.Rel (Member.Counterpart renumber) (task.sourceMember? member.name)
      (other.sourceMember? member.name) := by
  have named := mirrors.named member present
  unfold MappingTask.sourceMember?
  generalize task.sourceStruct.member? member.name = found at named ⊢
  generalize other.sourceStruct.member? member.name = counterpart at named ⊢
  cases named with
  | none => exact .none
  | @some first second same =>
      rw [Option.filter_some, Option.filter_some, same.readable]
      split
      · exact .some same
      · exact .none

theorem memberPair (sourceType : Option TypeRef) :
    other.memberPair (member.renumbered renumber) (sourceType.map (·.renumbered renumber)) =
      task.memberPair member sourceType := by
  simp [MappingTask.memberPair, Member.renumbered, MemberSpec.renumbered, mirrors.source, mirrors.destination,
    mirrors.schemas.display, Function.comp_def]

theorem mismatch {sourceMember counterpart : Member} (same : sourceMember.Counterpart renumber counterpart)
    (relation : TypeRelation) :
    other.mismatch (member.renumbered renumber) counterpart (relation.renumbered renumber) =
      task.mismatch member sourceMember relation := by
  have samePair : other.memberPair (member.renumbered renumber) (some counterpart.type) =
      task.memberPair member (some sourceMember.type) := by
    rw [same.type]
    exact mirrors.memberPair (some sourceMember.type)
  cases relation <;>
    simp only [TypeRelation.renumbered, MappingTask.mismatch, samePair, mirrors.schemas.idents]

theorem location : other.request.method.location = task.request.method.location := by
  rw [mirrors.request]
  rfl

theorem infer (present : member ∈ task.destinationStruct.members) :
    other.infer (registry.renumbered renumber) (member.renumbered renumber) =
      Prod.map (·.renumbered renumber) (·.renumbered renumber) (task.infer registry member) := by
  have sameName : (member.renumbered renumber).name = member.name := rfl
  have sameType : (member.renumbered renumber).type = member.type.renumbered renumber := rfl
  have counterparts := mirrors.sourceMember? present
  unfold MappingTask.infer
  simp only [sameName, sameType, mirrors.location]
  generalize task.sourceMember? member.name = found at counterparts ⊢
  generalize other.sourceMember? member.name = otherFound at counterparts ⊢
  cases counterparts with
  | none =>
      have samePair : other.memberPair (member.renumbered renumber) none = task.memberPair member none :=
        mirrors.memberPair none
      simp only [samePair]
      rfl
  | @some first second same =>
      simp only [same.type, mirrors.relation, mirrors.read same, mirrors.convert?, mirrors.mismatch same]
      cases task.convert? registry (task.read first) first.type member.type
          (task.relation first.type member.type) <;> rfl

theorem inlined (transform : Transform) :
    transform.inline? other.params false other.sourceParam =
      transform.inline? task.params false task.sourceParam := by
  rw [mirrors.params, mirrors.sourceParam]

theorem mappedByUser (custom : MapMember) :
    other.mappedByUser custom = (task.mappedByUser custom).renumbered renumber := by
  unfold MappingTask.mappedByUser
  rw [mirrors.inlined]
  split <;> rfl

theorem collected (directive : MapCollection) (element : Option TypeRef)
    {collect otherCollect : String → Expr → Expr}
    (alike : ∀ binder written, otherCollect binder (.verbatim written) =
      (collect binder (.verbatim written)).renumbered renumber) :
    other.collected directive (element.map (·.renumbered renumber)) otherCollect =
      (task.collected directive element collect).renumbered renumber := by
  have sameBinder : other.binderOf directive.item (element.map (·.renumbered renumber)) =
      task.binderOf directive.item element := by
    have sameName : other.elementName ∘ TypeRef.renumbered renumber = task.elementName :=
      funext mirrors.elementName
    simp only [MappingTask.binderOf, Option.map_map]
    rw [show (other.elementName ∘ fun type => TypeRef.renumbered renumber type) = task.elementName from sameName]
  unfold MappingTask.collected
  simp only [sameBinder, mirrors.params]
  split
  · exact congrArg Verdict.assigned (alike _ _)
  · rfl

theorem collectedByUser? (present : member ∈ task.destinationStruct.members) (directive : MapCollection) :
    other.collectedByUser? (member.renumbered renumber) directive =
      (task.collectedByUser? member directive).map (·.renumbered renumber) := by
  have sameName : (member.renumbered renumber).name = member.name := rfl
  have sameTarget : (member.renumbered renumber).type.collectionKind? = member.type.collectionKind? :=
    TypeRef.collectionKind?_renumbered renumber member.type
  unfold MappingTask.collectedByUser?
  simp only [sameName, sameTarget]
  cases directive.source with
  | some source =>
      simp only [mirrors.inlined]
      split
      · exact congrArg some (mirrors.collected directive none fun _ _ => rfl)
      · rfl
  | none =>
      have counterparts := mirrors.sourceMember? present
      dsimp only
      generalize task.sourceMember? member.name = found at counterparts ⊢
      generalize other.sourceMember? member.name = otherFound at counterparts ⊢
      cases counterparts with
      | none => rfl
      | @some first second same =>
          simp only [Option.map_some, same.type, TypeRef.element?_renumbered]
          refine congrArg some (mirrors.collected directive _ fun binder written => ?_)
          rw [mirrors.read same]
          rfl

theorem ruled? (present : member ∈ task.destinationStruct.members) :
    other.ruled? (member.renumbered renumber) = (task.ruled? member).map (·.renumbered renumber) := by
  have sameMapped : other.request.directives.mapMember? = task.request.directives.mapMember? := by
    rw [mirrors.request]
    rfl
  have sameIgnored : other.request.directives.ignore? = task.request.directives.ignore? := by
    rw [mirrors.request]
    rfl
  have sameCollected : other.request.directives.collection? = task.request.directives.collection? := by
    rw [mirrors.request]
    rfl
  have sameSpec : (member.renumbered renumber).system = member.system ∧
      (member.renumbered renumber).settable = member.settable ∧
      (member.renumbered renumber).required = member.required ∧
      (member.renumbered renumber).name = member.name := ⟨rfl, rfl, rfl, rfl⟩
  unfold MappingTask.ruled?
  simp only [sameSpec, sameMapped, sameIgnored, sameCollected]
  split
  · rfl
  · split
    · rfl
    · cases task.request.directives.ignore? member.name with
      | some ignore =>
          simp only [ignoredByUser, sameSpec]
          cases member.required <;> rfl
      | none =>
          cases task.request.directives.mapMember? member.name with
          | some custom => exact congrArg some (mirrors.mappedByUser custom)
          | none =>
              cases task.request.directives.collection? member.name with
              | some directive => exact mirrors.collectedByUser? present directive
              | none => rfl

theorem settle (present : member ∈ task.destinationStruct.members) (claimed : List String) :
    other.settle claimed (registry.renumbered renumber) (member.renumbered renumber) =
      Prod.map (·.renumbered renumber) (·.renumbered renumber) (task.settle claimed registry member) := by
  have sameName : (member.renumbered renumber).name = member.name := rfl
  unfold MappingTask.settle
  rw [sameName, resolveMember_ruled, resolveMember_ruled, mirrors.ruled? present]
  split
  · rfl
  · cases task.ruled? member with
    | some verdict => rfl
    | none => exact mirrors.infer registry present

/-- Members are resolved one by one to the counterparts of what they are resolved to in the first run. -/
theorem resolveMembers {members : List Member} (present : members ⊆ task.destinationStruct.members)
    (claimed : List String) :
    other.resolveMembers claimed (registry.renumbered renumber) (members.map (·.renumbered renumber)) =
      Prod.map (·.renumbered renumber) (List.map (·.renumbered renumber))
        (task.resolveMembers claimed registry members) := by
  induction members generalizing registry with
  | nil => rfl
  | cons member rest inductionHypothesis =>
      obtain ⟨isMember, ofRest⟩ := List.cons_subset.mp present
      rw [List.map_cons, resolveMembers_cons, resolveMembers_cons, mirrors.settle registry isMember]
      simp only [Prod.map, inductionHypothesis _ ofRest]
      rfl

end Members

section Constructors

variable {constructor : Constructor}

theorem constructorTexts : other.constructorTexts = task.constructorTexts := by
  rw [MappingTask.constructorTexts, mirrors.constructors, mirrors.destination]
  exact mirrors.schemas.signatures _ _

theorem claims : other.claims (constructor.renumbered renumber) = task.claims constructor := by
  have sameMember (name : String) : other.destinationStruct.memberIgnoringCase? name =
      (task.destinationStruct.memberIgnoringCase? name).map (·.renumbered renumber) := by
    rw [StructType.memberIgnoringCase?_eq, StructType.memberIgnoringCase?_eq, mirrors.members, List.find?_map]
    rfl
  unfold MappingTask.claims
  rw [Constructor.parameters_renumbered, List.foldl_map]
  refine congrArg (List.foldl · [] _) (funext fun claimed => funext fun parameter => ?_)
  have sameName : (parameter.renumbered renumber).name = parameter.name := rfl
  rw [sameName, sameMember]
  cases task.destinationStruct.memberIgnoringCase? parameter.name <;> rfl

theorem explicitConstructor (arguments : List Transform) :
    other.explicitConstructor (constructor.renumbered renumber) arguments =
      (task.explicitConstructor constructor arguments).renumbered renumber := by
  have sameValues : ((constructor.renumbered renumber).parameters.zip arguments).map other.writtenArgument =
      (constructor.parameters.zip arguments).map task.writtenArgument := by
    rw [Constructor.parameters_renumbered, List.zip_map_left, List.map_map]
    refine List.map_congr_left fun pair _ => ?_
    simp only [Function.comp_apply, MappingTask.writtenArgument, Prod.map, mirrors.inlined]
    rfl
  have sameArguments (values : List (Parameter × Transform)) :
      ((values.map task.writtenArgument).filterMap (·.toOption)).map (·.renumbered renumber) =
        (values.map task.writtenArgument).filterMap (·.toOption) := by
    rw [List.filterMap_map, List.map_filterMap]
    exact congrArg (List.filterMap · _) (funext fun pair => task.writtenArgument_renumbered renumber pair)
  rw [explicitConstructor_written, explicitConstructor_written, sameValues, mirrors.claims]
  dsimp only
  split
  · simp only [ConstructorResult.call, ConstructorResult.renumbered, ConstructorPlan.renumbered,
      Option.map_some, sameArguments]
  · rfl

theorem feed? {parameter : Parameter} (isChoice : constructor ∈ task.destinationStruct.constructors)
    (isParameter : parameter ∈ constructor.parameters) :
    Option.Rel (MatchedParameter.Counterpart renumber) (task.feed? parameter)
      (other.feed? (parameter.renumbered renumber)) := by
  have sameName : (parameter.renumbered renumber).name = parameter.name := rfl
  have sameType : (parameter.renumbered renumber).type = parameter.type.renumbered renumber := rfl
  have fed := mirrors.fed constructor isChoice parameter isParameter
  unfold MappingTask.feed?
  rw [sameName]
  generalize task.sourceStruct.memberIgnoringCase? parameter.name = found at fed ⊢
  generalize other.sourceStruct.memberIgnoringCase? parameter.name = counterpart at fed ⊢
  cases fed with
  | none => exact .none
  | @some first second same =>
      rw [Option.filter_some, Option.filter_some, same.readable]
      split
      · simp only [Option.bind_some, same.type, sameType, mirrors.relation,
          TypeRelation.isCompatible_renumbered]
        split
        · exact .some ⟨rfl, same, rfl⟩
        · exact .none
      · exact .none

theorem buildArguments {found others : List MatchedParameter}
    (counterparts : List.Forall₂ (MatchedParameter.Counterpart renumber) found others) :
    other.buildArguments (registry.renumbered renumber) others =
      Prod.map (·.renumbered renumber) (List.map (·.renumbered renumber))
        (task.buildArguments registry found) := by
  induction counterparts generalizing registry with
  | nil => rfl
  | @cons first second _ _ pair _ inductionHypothesis =>
      have sameParameter : second.parameter.name = first.parameter.name ∧
          second.parameter.type = first.parameter.type.renumbered renumber := by
        rw [pair.parameter]
        exact ⟨rfl, rfl⟩
      simp only [MappingTask.buildArguments, mirrors.read pair.member, pair.member.type, sameParameter, pair.relation,
        mirrors.convert?]
      cases task.convert? registry (task.read first.member) first.member.type first.parameter.type
          first.relation with
      | none => exact inductionHypothesis registry
      | some converted =>
          simp only [Option.map_some, Prod.map, inductionHypothesis]
          rfl

theorem onlyConstructor (isChoice : constructor ∈ task.destinationStruct.constructors) :
    other.onlyConstructor (registry.renumbered renumber) (constructor.renumbered renumber) =
      Prod.map (·.renumbered renumber) (·.renumbered renumber) (task.onlyConstructor registry constructor) := by
  have counterparts := mapM_rel fun parameter isParameter => mirrors.feed? isChoice isParameter
  unfold MappingTask.onlyConstructor
  rw [Constructor.parameters_renumbered]
  generalize constructor.parameters.mapM task.feed? = found at counterparts ⊢
  generalize (constructor.parameters.map fun parameter => parameter.renumbered renumber).mapM other.feed? =
    others at counterparts ⊢
  cases counterparts with
  | none =>
      simp only [mirrors.location, mirrors.destination, mirrors.constructorTexts]
      rfl
  | some pairs =>
      simp only [mirrors.buildArguments registry pairs, mirrors.claims]
      rfl

theorem inferConstructor :
    other.inferConstructor (registry.renumbered renumber) =
      Prod.map (·.renumbered renumber) (·.renumbered renumber) (task.inferConstructor registry) := by
  unfold MappingTask.inferConstructor
  rw [mirrors.constructors, mirrors.location, mirrors.destination, mirrors.constructorTexts]
  match choices : task.destinationStruct.constructors with
  | [] => rfl
  | [constructor] =>
      have isChoice : constructor ∈ task.destinationStruct.constructors := by simp [choices]
      simp only [List.map_cons, List.map_nil, Constructor.isParameterless_renumbered]
      split
      · rfl
      · exact mirrors.onlyConstructor registry isChoice
  | first :: second :: rest => rfl

theorem resolveConstructor :
    other.resolveConstructor (registry.renumbered renumber) =
      Prod.map (·.renumbered renumber) (·.renumbered renumber) (task.resolveConstructor registry) := by
  have sameChoice : other.request.directives.constructor = task.request.directives.constructor := by
    rw [mirrors.request]
    rfl
  have sameEmpty : (fun constructor : Constructor => constructor.isParameterless) ∘
      Constructor.renumbered renumber = fun constructor => constructor.isParameterless :=
    funext fun constructor => constructor.isParameterless_renumbered renumber
  have sameCount (count : Nat) : (fun constructor : Constructor => constructor.parameters.length == count) ∘
      Constructor.renumbered renumber = fun constructor => constructor.parameters.length == count := by
    funext constructor
    simp
  unfold MappingTask.resolveConstructor
  rw [sameChoice, mirrors.constructors]
  cases task.request.directives.constructor with
  | none => exact mirrors.inferConstructor registry
  | some choice =>
      cases choice with
      | empty location =>
          simp only [List.find?_map, sameEmpty, mirrors.destination, mirrors.constructorTexts]
          cases task.destinationStruct.constructors.find? (·.isParameterless) <;> rfl
      | arguments arguments location =>
          simp only [List.find?_map, sameCount, mirrors.destination, mirrors.constructorTexts]
          cases task.destinationStruct.constructors.find? (·.parameters.length == arguments.length) with
          | none => rfl
          | some constructor => exact congrArg (Prod.mk _) (mirrors.explicitConstructor arguments)

end Constructors

theorem registerPair (pair : MapEnum) :
    other.registerPair (registry.renumbered renumber) (pair.renumbered renumber) =
      Prod.map (·.renumbered renumber) id (task.registerPair registry pair) := by
  have key : (⟨renumber pair.source, renumber pair.destination, false, false⟩ : EnumKey) =
      EnumKey.renumbered renumber ⟨pair.source, pair.destination, false, false⟩ := rfl
  simp only [MappingTask.registerPair, MapEnum.renumbered, mirrors.schemas.variants, mirrors.schemas.idents, key,
    mirrors.schemas.register]
  cases task.schema.variants? pair.source with
  | none => rfl
  | some sourceVariants =>
      cases task.schema.variants? pair.destination with
      | none => rfl
      | some destinationVariants =>
          dsimp only
          split <;> rfl

theorem registerPairs (pairs : List MapEnum) :
    other.registerPairs (registry.renumbered renumber) (pairs.map (·.renumbered renumber)) =
      Prod.map (·.renumbered renumber) id (task.registerPairs registry pairs) := by
  induction pairs generalizing registry with
  | nil => rfl
  | cons pair rest inductionHypothesis =>
      simp only [List.map_cons, MappingTask.registerPairs, mirrors.registerPair, Prod.map, inductionHypothesis]
      rfl

/-- The second run resolves to the counterpart of what the first resolves to. -/
theorem resolve : other.resolve = task.resolve.renumbered renumber := by
  have samePairs : other.request.directives.enums =
      task.request.directives.enums.map (·.renumbered renumber) := by
    rw [mirrors.request]
    rfl
  have nothing : EnumRegistry.empty = EnumRegistry.empty.renumbered renumber := rfl
  have assignments (results : List MemberResult) :
      (results.map (·.renumbered renumber)).filterMap (·.assignment?) =
        (results.filterMap (·.assignment?)).map (·.renumbered renumber) := by
    rw [List.filterMap_map, List.map_filterMap]
    exact congrArg (List.filterMap · _) (funext (MemberResult.assignment?_renumbered renumber))
  have outcomes (results : List MemberResult) :
      (results.map (·.renumbered renumber)).map (·.outcome) = results.map (·.outcome) := by
    rw [List.map_map]
    exact List.map_congr_left fun result _ => result.outcome_renumbered renumber
  have diagnostics (results : List MemberResult) :
      (results.map (·.renumbered renumber)).filterMap (·.verdict.diagnostic?) =
        results.filterMap (·.verdict.diagnostic?) := by
    rw [List.filterMap_map]
    exact congrArg (List.filterMap · _) (funext fun result => result.verdict.diagnostic?_renumbered renumber)
  unfold MappingTask.resolve
  rw [samePairs, mirrors.members]
  nth_rewrite 1 [nothing]
  simp only [mirrors.registerPairs, Prod.map, mirrors.resolveConstructor,
    mirrors.resolveMembers _ (List.Subset.refl _), assignments, outcomes, diagnostics, id]
  rfl

end MappingTask.Mirrors

end ObjectMapping
