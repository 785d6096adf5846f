/-
This file proves that inference is sound: the expressions that it builds for members and for parameters of
the only constructor have the declared types.
-/

import ObjectMapping.Proofs.Resolution.Rules
import ObjectMapping.Proofs.TypeRelation

namespace ObjectMapping

/-- The types of inferred expressions. The scope holds the elements that transforms bind, the innermost
first; the functions are those that convert enums. -/
inductive HasType (task : MappingTask) (functions : List EnumFunction) :
    List (String × TypeRef) → Expr → TypeRef → Prop
  | member (scope : List (String × TypeRef)) (member : Member)
      (present : member ∈ task.sourceStruct.members) (readable : member.readable = true) :
      HasType task functions scope
        (.member task.sourceParam member.name member.kind member.type) member.type
  | item (scope : List (String × TypeRef)) (name : String) (type : TypeRef)
      (bound : scope.lookup name = some type) :
      HasType task functions scope (.item name type) type
  | widen (scope : List (String × TypeRef)) (value : Expr) (source target : Scalar)
      (typed : HasType task functions scope value (.scalar source))
      (wider : source.widensTo target = true) :
      HasType task functions scope (.widen value target) (.scalar target)
  | some (scope : List (String × TypeRef)) (value : Expr) (type : TypeRef)
      (typed : HasType task functions scope value type) :
      HasType task functions scope (.some value) (.nullable type)
  | enumConvert (scope : List (String × TypeRef)) (function : EnumFunction) (value : Expr)
      (known : function ∈ functions)
      (typed : HasType task functions scope value function.key.argument) :
      HasType task functions scope (.enumConvert function.name value) function.key.result
  /-- The value comes first; the names of further parameters of the mapping method fill the rest. -/
  | delegate (scope : List (String × TypeRef)) (mapper : IncludedMapper) (method : DelegateMethod)
      (value : Expr) (type : TypeRef) (forwarded : List String)
      (included : mapper ∈ task.request.delegates) (offered : method ∈ mapper.methods)
      (first : method.params.head? = Option.some type)
      (count : forwarded.length + 1 = method.params.length)
      (params : ∀ name ∈ forwarded, name ∈ task.params)
      (typed : HasType task functions scope value type) :
      HasType task functions scope
        (.delegate mapper.field method.name (value :: forwarded.map .param)) method.result
  | collect (scope : List (String × TypeRef)) (source transform : Expr) (binder : String)
      (kind target : CollectionKind) (element result : TypeRef)
      (typed : HasType task functions scope source (.collection kind element))
      (transformed : HasType task functions ((binder, element) :: scope) transform result) :
      HasType task functions scope (.collect source binder transform target)
        (.collection target result)

namespace HasType

variable {task : MappingTask} {functions : List EnumFunction} {scope : List (String × TypeRef)}

/-- Expressions keep their types when functions are added. -/
theorem addFunctions {value : Expr} {type : TypeRef} {more : List EnumFunction}
    (kept : functions ⊆ more) (typed : HasType task functions scope value type) :
    HasType task more scope value type := by
  induction typed with
  | member scope member present readable => exact .member scope member present readable
  | item scope name type bound => exact .item scope name type bound
  | widen scope value source target _ wider inductionHypothesis =>
      exact .widen scope value source target inductionHypothesis wider
  | some scope value type _ inductionHypothesis => exact .some scope value type inductionHypothesis
  | enumConvert scope function value known _ inductionHypothesis =>
      exact .enumConvert scope function value (kept known) inductionHypothesis
  | delegate scope mapper method value type forwarded included offered first count params _
      inductionHypothesis =>
      exact .delegate scope mapper method value type forwarded included offered first count params
        inductionHypothesis
  | collect scope source transform binder kind target element result _ _ ofSource ofTransform =>
      exact .collect scope source transform binder kind target element result ofSource ofTransform

/-- A conversion takes a value of its source type to its destination type. -/
theorem converted {value : Expr} {source destination : TypeRef} {conversion : Conversion}
    (converts : conversion.Converts source destination)
    (typed : HasType task functions scope value source) :
    HasType task functions scope (conversion.apply value) destination := by
  cases converts with
  | widen source target wider => exact .widen scope value source target typed wider
  | wrap type => exact .some scope value source typed
  | widenAndWrap source target wider =>
      exact .some scope _ _ (.widen scope value source target typed wider)

/-- A call of an enum function takes a value of the argument type to the result type. -/
theorem enumCalled {registry : EnumRegistry} {key : EnumKey} {value : Expr}
    (typed : HasType task registry.functions scope value key.argument) :
    HasType task (task.enumCall registry key value).1.functions scope
      (task.enumCall registry key value).2 key.result := by
  obtain ⟨function, known, sameName, sameKey⟩ := registry.register_function task.schema key
  have grown := typed.addFunctions (registry.register_grows task.schema key).kept
  subst sameKey
  have called := HasType.enumConvert scope function value known grown
  rw [sameName] at called
  exact called

/-- A delegated call takes a value of the first parameter's type to the method's result. -/
theorem delegated {delegation : Delegation} {value : Expr} {source destination : TypeRef}
    (takes : delegation.Takes task.request.delegates task.params.length source destination)
    (typed : HasType task functions scope value source) :
    HasType task functions scope (task.delegateCall delegation value) destination := by
  have nonempty : 0 < delegation.method.params.length := by
    cases params : delegation.method.params with
    | nil =>
        have first := takes.first
        simp [params] at first
    | cons _ _ => simp
  rw [← takes.result]
  refine .delegate scope delegation.mapper delegation.method value source
    ((task.params.take delegation.method.params.length).drop 1) takes.included takes.method
    takes.first ?_ ?_ typed
  · have fits := takes.fits
    simp only [List.length_drop, List.length_take]
    omega
  · intro name present
    exact List.mem_of_mem_take (List.mem_of_mem_drop present)

end HasType

namespace MappingTask

variable (task : MappingTask)

/-- A converted element has the element type of the destination. -/
theorem convertElement_typed (registry : EnumRegistry) (scope : List (String × TypeRef))
    (value : Expr) (source destination : TypeRef) (relation : ElementRelation)
    (related : relation.Relates source destination)
    (typed : HasType task registry.functions scope value source) :
    HasType task (task.convertElement registry value relation).1.functions scope
      (task.convertElement registry value relation).2 destination := by
  cases related with
  | exact type => exact typed
  | enum key => exact typed.enumCalled
  | implicit conversion _ _ converts => exact typed.converted converts

theorem convertElement_grows (registry : EnumRegistry) (value : Expr) (relation : ElementRelation) :
    registry.Grows (task.convertElement registry value relation).1 := by
  cases relation with
  | exact | implicit => exact .refl registry
  | enum key => exact registry.register_grows task.schema key

/-- A value that can be converted is converted, to an expression of the destination type. -/
theorem convert?_typed (registry : EnumRegistry) (scope : List (String × TypeRef)) (value : Expr)
    (source destination : TypeRef) (relation : TypeRelation)
    (related : relation.Relates task.request.delegates task.params.length source destination)
    (typed : HasType task registry.functions scope value source) :
    ∃ extended expr, task.convert? registry value source destination relation =
        some (extended, expr) ∧
      registry.Grows extended ∧ HasType task extended.functions scope expr destination := by
  cases related with
  | exact type => exact ⟨registry, value, rfl, .refl registry, typed⟩
  | enum key =>
      exact ⟨_, _, rfl, registry.register_grows task.schema key, typed.enumCalled⟩
  | implicit conversion _ _ converts =>
      exact ⟨registry, _, rfl, .refl registry, typed.converted converts⟩
  | collection kind target relation source destination related =>
      have grows := task.convertElement_grows registry (.item (task.elementName source) source) relation
      have bound : HasType task registry.functions ((task.elementName source, source) :: scope)
          (.item (task.elementName source) source) source := .item _ _ _ (by simp)
      exact ⟨_, _, rfl, grows, .collect scope value _ _ kind target source destination
        (typed.addFunctions grows.kept)
        (task.convertElement_typed registry _ _ source destination relation related bound)⟩
  | delegated delegation _ _ single takes =>
      refine ⟨registry, task.delegateCall delegation value, ?_, .refl registry,
        typed.delegated takes⟩
      simp only [convert?, single, Bool.false_eq_true, ↓reduceIte]
  | delegatedElements kind target delegation source destination each takes =>
      have bound : HasType task registry.functions ((task.elementName source, source) :: scope)
          (.item (task.elementName source) source) source := .item _ _ _ (by simp)
      refine ⟨registry, .collect value (task.elementName source)
        (task.delegateCall delegation (.item (task.elementName source) source)) target, ?_,
        .refl registry, .collect scope value _ _ kind target source destination typed
          (bound.delegated takes)⟩
      simp only [convert?, each, ↓reduceIte, TypeRef.element?, TypeRef.collectionKind?,
        Option.map_some, Option.getD_some]

/-- A relation that allows no conversion yields no value. -/
theorem convert?_compatible (registry : EnumRegistry) (value : Expr) (source destination : TypeRef)
    (relation : TypeRelation) (found : EnumRegistry × Expr)
    (converted : task.convert? registry value source destination relation = some found) :
    relation.isCompatible = true := by
  cases relation with
  | nullableMismatch | enumMismatch | incompatible => cases converted
  | exact | enum | implicit | collection | delegated => rfl

/-- What reads a member of the source has the type of the member. -/
theorem read_typed (functions : List EnumFunction) (scope : List (String × TypeRef))
    (member : Member) (present : member ∈ task.sourceStruct.members)
    (readable : member.readable = true) :
    HasType task functions scope (task.read member) member.type :=
  .member scope member present readable

/-- The value that is inferred for a member has the type of the member. -/
theorem InferRule.typed {registry : EnumRegistry} {member : Member} {decision : EnumRegistry × Verdict}
    (rule : task.InferRule registry member decision) :
    registry.Grows decision.1 ∧
      ∀ expr, decision.2 = .assigned expr → HasType task decision.1.functions [] expr member.type := by
  cases rule with
  | missing | mismatched => exact ⟨.refl registry, nofun⟩
  | converted source extended value found made =>
      obtain ⟨present, readable⟩ := sourceMember?_some found
      have typed := task.read_typed registry.functions [] source present readable
      have compatible := task.convert?_compatible _ _ _ _ _ _ made
      obtain ⟨_, _, same, grows, valueTyped⟩ := task.convert?_typed registry [] _ _ _ _
        (TypeRelation.classify_relates _ _ _ _ _ compatible) typed
      rw [relation] at made
      rw [made] at same
      cases same
      refine ⟨grows, ?_⟩
      intro other same
      cases same
      exact valueTyped

/-- Every expression that is inferred for a member is one of the member's type. -/
theorem resolveMember_typed (registry : EnumRegistry) (member : Member) :
    registry.Grows (task.resolveMember registry member).1 ∧
      ∀ expr, (task.resolveMember registry member).2 = .assigned expr →
        task.request.directives.mapMember? member.name = none →
        task.request.directives.collection? member.name = none →
        HasType task (task.resolveMember registry member).1.functions [] expr member.type := by
  have rule := task.resolveMember_rule registry member
  generalize task.resolveMember registry member = decision at rule ⊢
  cases rule with
  | system | notSettable => exact ⟨.refl registry, by simp⟩
  | ignored directive =>
      refine ⟨.refl registry, ?_⟩
      intro expr assigned
      exact absurd assigned (ignoredByUser_ne member directive expr)
  | mapped directive _ found =>
      refine ⟨.refl registry, ?_⟩
      intro expr _ unmapped
      rw [unmapped] at found
      cases found
  | collected directive verdict _ _ found _ =>
      refine ⟨.refl registry, ?_⟩
      intro expr _ _ uncollected
      rw [uncollected] at found
      cases found
  | inferred =>
      obtain ⟨grows, typed⟩ := (task.infer_rule registry member).typed
      exact ⟨grows, fun expr assigned _ _ => typed expr assigned⟩

theorem settle_typed (claimed : List String) (registry : EnumRegistry) (member : Member) :
    registry.Grows (task.settle claimed registry member).1 ∧
      ∀ expr, (task.settle claimed registry member).2 = .assigned expr →
        task.request.directives.mapMember? member.name = none →
        task.request.directives.collection? member.name = none →
        HasType task (task.settle claimed registry member).1.functions [] expr member.type := by
  unfold settle
  split
  · exact ⟨.refl registry, by simp⟩
  · exact task.resolveMember_typed registry member

/-- Members that are resolved one after another keep the types of their expressions. -/
theorem resolveMembers_typed (claimed : List String) (registry : EnumRegistry)
    (members : List Member) :
    registry.Grows (task.resolveMembers claimed registry members).1 ∧
      ∀ result ∈ (task.resolveMembers claimed registry members).2, ∀ expr,
        result.verdict = .assigned expr →
        task.request.directives.mapMember? result.member.name = none →
        task.request.directives.collection? result.member.name = none →
        HasType task (task.resolveMembers claimed registry members).1.functions [] expr
          result.member.type := by
  induction members generalizing registry with
  | nil => exact ⟨.refl registry, by simp [resolveMembers]⟩
  | cons member rest inductionHypothesis =>
      obtain ⟨grows, typed⟩ := task.settle_typed claimed registry member
      obtain ⟨growsOn, typedRest⟩ := inductionHypothesis (task.settle claimed registry member).1
      rw [resolveMembers_cons]
      refine ⟨grows.trans growsOn, ?_⟩
      intro result present expr assigned unmapped uncollected
      rcases List.mem_cons.mp present with same | later
      · subst same
        exact (typed expr assigned unmapped uncollected).addFunctions growsOn.kept
      · exact typedRest result later expr assigned unmapped uncollected

/-- A parameter that can be fed is fed from a readable member that can be converted. -/
theorem feed?_found (parameter : Parameter) (found : MatchedParameter)
    (fed : task.feed? parameter = some found) :
    found.parameter = parameter ∧ found.member ∈ task.sourceStruct.members ∧
      found.member.readable = true ∧
      found.relation.Relates task.request.delegates task.params.length found.member.type
        parameter.type := by
  obtain ⟨sameParameter, present, readable, isRelation, compatible⟩ := task.feed?_some parameter found fed
  rw [isRelation] at compatible ⊢
  exact ⟨sameParameter, present, readable, TypeRelation.classify_relates _ _ _ _ _ compatible⟩

/-- Each parameter gets an argument of its name and type. -/
def Feeds (functions : List EnumFunction) (parameter : Parameter) (argument : ConstructorArgument) :
    Prop :=
  argument.param = parameter.name ∧ HasType task functions [] argument.expr parameter.type

/-- The arguments of the only constructor feed its parameters, each in its place. -/
theorem buildArguments_typed (registry : EnumRegistry) (parameters : List Parameter)
    (found : List MatchedParameter)
    (fed : List.Forall₂ (fun parameter found => task.feed? parameter = some found) parameters found) :
    registry.Grows (task.buildArguments registry found).1 ∧
      List.Forall₂ (task.Feeds (task.buildArguments registry found).1.functions) parameters
        (task.buildArguments registry found).2 := by
  induction fed generalizing registry with
  | nil => exact ⟨.refl registry, .nil⟩
  | cons fed _ inductionHypothesis =>
      obtain ⟨sameParameter, present, readable, related⟩ := task.feed?_found _ _ fed
      obtain ⟨extended, expr, converted, grows, typed⟩ := task.convert?_typed registry [] _ _ _ _
        related (task.read_typed registry.functions [] _ present readable)
      obtain ⟨growsOn, feedsRest⟩ := inductionHypothesis extended
      rw [← sameParameter] at converted typed ⊢
      simp only [buildArguments, converted]
      exact ⟨grows.trans growsOn, .cons ⟨rfl, typed.addFunctions growsOn.kept⟩ feedsRest⟩

/-- A constructor that was fed by inference has an argument of the right type for each parameter. -/
theorem ConstructorRule.typed {registry : EnumRegistry}
    {decision : EnumRegistry × ConstructorResult} (rule : task.ConstructorRule registry decision) :
    registry.Grows decision.1 ∧ (decision.2.state = .autoSingleParameterizedMapped →
      ∃ call, decision.2.plan = some call ∧
        task.destinationStruct.constructors = [call.constructor] ∧
        List.Forall₂ (task.Feeds decision.1.functions) call.constructor.parameters
          call.arguments) := by
  cases rule with
  | noConstructor | onlyParameterless | onlyUnfed | several | askedEmpty | askedEmptyMissing
  | askedArgumentsMissing =>
      refine ⟨.refl registry, ?_⟩
      intro fedByInference
      cases fedByInference
  | askedArguments arguments location constructor =>
      refine ⟨.refl registry, ?_⟩
      intro fedByInference
      unfold explicitConstructor at fedByInference
      dsimp only at fedByInference
      split at fedByInference <;> cases fedByInference
  | onlyFed constructor found _ only _ fed =>
      obtain ⟨grows, feeds⟩ := task.buildArguments_typed registry _ _ ((mapM_some _ _ _).mp fed)
      exact ⟨grows, fun _ => ⟨_, rfl, only, feeds⟩⟩

theorem registerPair_grows (registry : EnumRegistry) (pair : MapEnum) :
    registry.Grows (task.registerPair registry pair).1 := by
  unfold registerPair
  split
  · dsimp only
    split
    · exact registry.register_grows task.schema _
    · exact .refl registry
  · exact .refl registry

theorem registerPairs_grows (registry : EnumRegistry) (pairs : List MapEnum) :
    registry.Grows (task.registerPairs registry pairs).1 := by
  induction pairs generalizing registry with
  | nil => exact .refl registry
  | cons pair rest inductionHypothesis =>
      exact (task.registerPair_grows registry pair).trans (inductionHypothesis _)

/-- What makes the inferred parts of a resolution well typed. -/
structure InfersTyped (resolution : Resolution) : Prop where
  /-- A name stands for one enum function only. -/
  functions : (resolution.plan.enumFunctions.map (·.name)).Nodup
  /-- What no directive of the user gives a member has the type of the member. -/
  assignments : ∀ assignment ∈ resolution.plan.assignments,
    task.request.directives.mapMember? assignment.member = none →
    task.request.directives.collection? assignment.member = none →
    ∃ member, task.destinationStruct.member? assignment.member = some member ∧
      HasType task resolution.plan.enumFunctions [] assignment.expr member.type
  /-- A constructor that inference has fed gets one argument for each parameter. -/
  arguments : resolution.plan.state = .autoSingleParameterizedMapped →
    ∃ call, resolution.plan.constructor = some call ∧
      task.destinationStruct.constructors = [call.constructor] ∧
      List.Forall₂ (task.Feeds resolution.plan.enumFunctions) call.constructor.parameters
        call.arguments

/-- A resolution into a struct that is laid out infers well-typed expressions. -/
theorem laidOut_infersTyped (id : TypeId) (laidOut : task.destinationStruct.IsLaidOut id) :
    task.InfersTyped task.resolve := by
  have paired := task.registerPairs_grows .empty task.request.directives.enums
  obtain ⟨constructed, fed⟩ := (task.resolveConstructor_rule task.pairedRegistry).typed
  obtain ⟨resolved, typed⟩ := task.resolveMembers_typed task.constructorResult.claimed
    task.constructedRegistry task.destinationStruct.members
  refine ⟨((paired.trans constructed).trans resolved).distinct List.nodup_nil, ?_, ?_⟩
  · intro assignment present unmapped uncollected
    obtain ⟨result, listed, named, _, assigned⟩ := task.assignments_result present
    rw [← named] at unmapped uncollected ⊢
    exact ⟨result.member, laidOut.member? result.member (task.memberResults_member listed),
      typed result listed assignment.expr assigned unmapped uncollected⟩
  · intro fedByInference
    obtain ⟨call, planned, only, feeds⟩ := fed fedByInference
    exact ⟨call, planned, only, feeds.imp fun _ _ fed =>
      ⟨fed.1, fed.2.addFunctions resolved.kept⟩⟩

end MappingTask

/-- Whatever inference builds in a resolution against a built schema is well typed. -/
theorem Request.resolve_infersTyped (draft : SchemaDraft) (schema : Schema) (request : Request)
    (resolution : Resolution) (built : draft.build = .ok schema)
    (resolved : request.resolve schema = .ok resolution) :
    ∃ task, request.toTask schema = .ok task ∧ task.InfersTyped resolution := by
  obtain ⟨task, id, accepted, laidOut, same⟩ :=
    request.resolve_task draft schema resolution built resolved
  rw [same]
  exact ⟨task, accepted, task.laidOut_infersTyped id laidOut⟩

/-- The identifier of an order is widened for the constructor, and its status is converted. -/
theorem orderRequest_infersTyped :
    SchemaDraft.orderDraft.build = .ok SchemaDraft.orderSchema ∧
      ∃ resolution, orderRequest.resolve SchemaDraft.orderSchema = .ok resolution ∧
        resolution.plan.state = .autoSingleParameterizedMapped ∧
        resolution.plan.assignments.map (·.member) = ["status"] ∧
        ∃ task, orderRequest.toTask SchemaDraft.orderSchema = .ok task ∧
          task.InfersTyped resolution :=
  ⟨SchemaDraft.orderDraft_build, _, rfl, rfl, rfl, Request.resolve_infersTyped SchemaDraft.orderDraft
    SchemaDraft.orderSchema orderRequest _ SchemaDraft.orderDraft_build rfl⟩

end ObjectMapping
