/-
This file lists the stages of a resolution and the rules by which constructors are chosen and members are
resolved. What holds of every resolution is shown rule by rule.
-/

import ObjectMapping.Proofs.Request
import ObjectMapping.Proofs.Schema.Built
import ObjectMapping.Resolution.Resolve

namespace ObjectMapping

namespace MappingTask

/-- The functions that the enum pairs of the user need. -/
def pairedRegistry (task : MappingTask) : EnumRegistry :=
  (task.registerPairs .empty task.request.directives.enums).1

/-- What is decided about the constructor. -/
def constructorResult (task : MappingTask) : ConstructorResult :=
  (task.resolveConstructor task.pairedRegistry).2

/-- The functions that the enum pairs and the constructor need. -/
def constructedRegistry (task : MappingTask) : EnumRegistry :=
  (task.resolveConstructor task.pairedRegistry).1

/-- What is decided about the members of the destination. -/
def memberResults (task : MappingTask) : List MemberResult :=
  (task.resolveMembers task.constructorResult.claimed task.constructedRegistry
    task.destinationStruct.members).2

/-- What is decided about one member, which the constructor may have claimed. -/
def settle (task : MappingTask) (claimed : List String) (registry : EnumRegistry)
    (member : Member) : EnumRegistry × Verdict :=
  if claimed.contains member.name then (registry, .claimed) else task.resolveMember registry member

/-- Members are settled one after another. -/
theorem resolveMembers_cons (task : MappingTask) (claimed : List String) (registry : EnumRegistry)
    (member : Member) (rest : List Member) :
    task.resolveMembers claimed registry (member :: rest) =
      ((task.resolveMembers claimed (task.settle claimed registry member).1 rest).1,
        ⟨member, (task.settle claimed registry member).2⟩ ::
          (task.resolveMembers claimed (task.settle claimed registry member).1 rest).2) :=
  rfl

/-- Every member keeps its place among the results. -/
theorem resolveMembers_members (task : MappingTask) (claimed : List String) (registry : EnumRegistry)
    (members : List Member) : (task.resolveMembers claimed registry members).2.map (·.member) = members := by
  induction members generalizing registry with
  | nil => rfl
  | cons member rest inductionHypothesis =>
      rw [resolveMembers_cons, List.map_cons, inductionHypothesis]

/-- Results are about members of the destination. -/
theorem memberResults_member (task : MappingTask) {result : MemberResult} (listed : result ∈ task.memberResults) :
    result.member ∈ task.destinationStruct.members := by
  have kept := List.mem_map_of_mem (f := (·.member)) listed
  rwa [memberResults, resolveMembers_members] at kept

/-- Each assignment is what was decided about a member of the destination. -/
theorem assignments_result (task : MappingTask) {assignment : MemberAssignment}
    (present : assignment ∈ task.resolve.plan.assignments) : ∃ result ∈ task.memberResults,
      result.member.name = assignment.member ∧ result.member.kind = assignment.kind ∧
        result.verdict = .assigned assignment.expr := by
  obtain ⟨result, listed, assigns⟩ := List.mem_filterMap.mp present
  unfold MemberResult.assignment? at assigns
  split at assigns
  · next assigned =>
      cases assigns
      exact ⟨result, listed, rfl, rfl, assigned⟩
  · cases assigns

/-- The members that are assigned are members of the destination in their order. -/
theorem assignments_sublist (task : MappingTask) :
    (task.resolve.plan.assignments.map (·.member)).Sublist (task.destinationStruct.members.map (·.name)) := by
  have kept : task.memberResults.map (·.member) = task.destinationStruct.members :=
    task.resolveMembers_members _ _ _
  rw [← kept, List.map_map]
  change ((task.memberResults.filterMap (·.assignment?)).map (·.member)).Sublist _
  induction task.memberResults with
  | nil => exact .slnil
  | cons result rest inductionHypothesis =>
      obtain ⟨member, verdict⟩ := result
      cases verdict with
      | assigned value => exact inductionHypothesis.cons_cons _
      | claimed | ignored | diagnosed => exact inductionHypothesis.cons _

/-- A source member that is found is a readable member of the source. -/
theorem sourceMember?_some {task : MappingTask} {name : String} {member : Member}
    (found : task.sourceMember? name = some member) :
    member ∈ task.sourceStruct.members ∧ member.readable = true := by
  obtain ⟨named, readable⟩ := Option.filter_eq_some_iff.mp found
  exact ⟨(StructType.mem_of_member? named).1, readable⟩

/-- A member that the user ignores is left out, unless it is required. -/
theorem ignoredByUser_cases (member : Member) (directive : IgnoreMember) :
    (member.required = true ∧ ignoredByUser member directive =
      .diagnosed (.error directive.location (.requiredMemberIgnored member.name))) ∨
    (member.required = false ∧ ignoredByUser member directive = .ignored .explicit) := by
  unfold ignoredByUser
  cases member.required with
  | true => exact .inl ⟨rfl, rfl⟩
  | false => exact .inr ⟨rfl, rfl⟩

theorem ignoredByUser_ne (member : Member) (directive : IgnoreMember) (value : Expr) :
    ignoredByUser member directive ≠ .assigned value := by
  intro assigned
  obtain ⟨_, decided⟩ | ⟨_, decided⟩ := ignoredByUser_cases member directive
  · cases decided.symm.trans assigned
  · cases decided.symm.trans assigned

/-- What the user maps a member to is written, unless it has a block. -/
theorem mappedByUser_cases (task : MappingTask) (directive : MapMember) :
    (∃ text, task.mappedByUser directive = .assigned (.verbatim text)) ∨
      task.mappedByUser directive = refuseBlock directive.source.location .mapMember := by
  unfold mappedByUser
  split
  · exact .inl ⟨_, rfl⟩
  · exact .inr rfl

/-- What the user's item transform makes is collected around the text of the transform, unless it has a block. -/
theorem collected_cases (task : MappingTask) (directive : MapCollection) (element : Option TypeRef)
    (collect : String → Expr → Expr) :
    (∃ transform, task.collected directive element collect =
      .assigned (collect (task.binderOf directive.item element) (.verbatim transform))) ∨
    task.collected directive element collect = refuseBlock directive.item.location .mapCollection := by
  unfold collected
  dsimp only
  split
  · exact .inl ⟨_, rfl⟩
  · exact .inr rfl

/-- The rules of a collection directive for a member, each with what it decides, if it decides. -/
inductive CollectRule (task : MappingTask) (member : Member) (directive : MapCollection) : Option Verdict → Prop
  | written (source : Transform) (text transform : String) (given : directive.source = some source) :
      CollectRule task member directive (some (.assigned (.collectVerbatim text
        (task.binderOf directive.item none) (.verbatim transform) (member.type.collectionKind?.getD .vec))))
  | read (source : Member) (transform : String) (unwritten : directive.source = none)
      (found : task.sourceMember? member.name = some source) :
      CollectRule task member directive (some (.assigned (.collect (task.read source)
        (task.binderOf directive.item source.type.element?) (.verbatim transform)
        (member.type.collectionKind?.getD .vec))))
  | refused (value : Transform) (isPart : directive.source = some value ∨ directive.item = value) :
      CollectRule task member directive (some (refuseBlock value.location .mapCollection))
  | unfound (unwritten : directive.source = none) (absent : task.sourceMember? member.name = none) :
      CollectRule task member directive none

/-- One of the rules decides what becomes of a collection directive. -/
theorem collectedByUser?_rule {task : MappingTask} {member : Member} {directive : MapCollection}
    {decision : Option Verdict} (decided : task.collectedByUser? member directive = decision) :
    task.CollectRule member directive decision := by
  subst decided
  unfold collectedByUser?
  dsimp only
  cases given : directive.source with
  | some source =>
      dsimp only
      cases source.inline? task.params false task.sourceParam with
      | none => exact .refused source (.inl given)
      | some text =>
          dsimp only
          obtain ⟨transform, made⟩ | refused := task.collected_cases directive none
            fun binder transform => .collectVerbatim text binder transform (member.type.collectionKind?.getD .vec)
          · rw [made]
            exact .written source text transform given
          · rw [refused]
            exact .refused directive.item (.inr rfl)
  | none =>
      dsimp only
      cases found : task.sourceMember? member.name with
      | none => exact .unfound given found
      | some source =>
          rw [Option.map_some]
          obtain ⟨transform, made⟩ | refused := task.collected_cases directive source.type.element?
            fun binder transform =>
              .collect (task.read source) binder transform (member.type.collectionKind?.getD .vec)
          · rw [made]
            exact .read source transform given found
          · rw [refused]
            exact .refused directive.item (.inr rfl)

/-- The rules of inference, each with what it decides. -/
inductive InferRule (task : MappingTask) (registry : EnumRegistry) (member : Member) :
    EnumRegistry × Verdict → Prop
  | missing (absent : task.sourceMember? member.name = none) :
      InferRule task registry member (registry, .diagnosed
        (.error task.request.method.location (.missingMember (task.memberPair member none))))
  | converted (source : Member) (extended : EnumRegistry) (value : Expr)
      (found : task.sourceMember? member.name = some source)
      (made : task.convert? registry (task.read source) source.type member.type
        (task.relation source.type member.type) = some (extended, value)) :
      InferRule task registry member (extended, .assigned value)
  | mismatched (source : Member) (found : task.sourceMember? member.name = some source)
      (unmade : task.convert? registry (task.read source) source.type member.type
        (task.relation source.type member.type) = none) :
      InferRule task registry member (registry, .diagnosed (.error task.request.method.location
        (task.mismatch member source (task.relation source.type member.type))))

/-- One of the rules decides what is inferred for a member. -/
theorem infer_rule (task : MappingTask) (registry : EnumRegistry) (member : Member) :
    task.InferRule registry member (task.infer registry member) := by
  unfold infer
  cases found : task.sourceMember? member.name with
  | none => exact .missing found
  | some source =>
      dsimp only
      cases made : task.convert? registry (task.read source) source.type member.type
          (task.relation source.type member.type) with
      | none => exact .mismatched source found made
      | some converted => exact .converted source converted.1 converted.2 found made

/-- The rules for a member, each with what it decides. -/
inductive MemberRule (task : MappingTask) (registry : EnumRegistry) (member : Member) :
    EnumRegistry × Verdict → Prop
  | system (isSystem : member.system = true) :
      MemberRule task registry member (registry, .ignored .system)
  | notSettable (isData : member.system = false) (isFixed : member.settable = false) :
      MemberRule task registry member (registry, .ignored .notSettable)
  | ignored (directive : IgnoreMember)
      (found : task.request.directives.ignore? member.name = some directive) :
      MemberRule task registry member (registry, ignoredByUser member directive)
  | mapped (directive : MapMember)
      (notIgnored : task.request.directives.ignore? member.name = none)
      (found : task.request.directives.mapMember? member.name = some directive) :
      MemberRule task registry member (registry, task.mappedByUser directive)
  | collected (directive : MapCollection) (verdict : Verdict)
      (notIgnored : task.request.directives.ignore? member.name = none)
      (notMapped : task.request.directives.mapMember? member.name = none)
      (found : task.request.directives.collection? member.name = some directive)
      (decided : task.collectedByUser? member directive = some verdict) :
      MemberRule task registry member (registry, verdict)
  | inferred (notIgnored : task.request.directives.ignore? member.name = none)
      (notMapped : task.request.directives.mapMember? member.name = none)
      (undecided : (task.request.directives.collection? member.name).bind
        (task.collectedByUser? member) = none) :
      MemberRule task registry member (task.infer registry member)

/-- One of the rules decides about a member. -/
theorem resolveMember_rule (task : MappingTask) (registry : EnumRegistry) (member : Member) :
    task.MemberRule registry member (task.resolveMember registry member) := by
  unfold resolveMember
  cases isSystem : member.system with
  | true => exact .system isSystem
  | false =>
      cases isSettable : member.settable with
      | false => exact .notSettable isSystem isSettable
      | true =>
          simp only [Bool.not_true, Bool.false_eq_true, ↓reduceIte]
          cases ignore : task.request.directives.ignore? member.name with
          | some directive => exact .ignored directive ignore
          | none =>
              cases custom : task.request.directives.mapMember? member.name with
              | some directive => exact .mapped directive ignore custom
              | none =>
                  cases decided : (task.request.directives.collection? member.name).bind
                      (task.collectedByUser? member) with
                  | none => exact .inferred ignore custom decided
                  | some verdict =>
                      obtain ⟨directive, found, same⟩ := Option.bind_eq_some_iff.mp decided
                      exact .collected directive verdict ignore custom found same

/-- What is decided about a member before anything is inferred for it. -/
def ruled? (task : MappingTask) (member : Member) : Option Verdict :=
  if member.system then some (.ignored .system)
  else if !member.settable then some (.ignored .notSettable)
  else
    match task.request.directives.ignore? member.name with
    | some ignore => some (ignoredByUser member ignore)
    | none =>
        match task.request.directives.mapMember? member.name with
        | some custom => some (task.mappedByUser custom)
        | none => (task.request.directives.collection? member.name).bind (task.collectedByUser? member)

theorem resolveMember_ruled (task : MappingTask) (registry : EnumRegistry) (member : Member) :
    task.resolveMember registry member =
      ((task.ruled? member).map (registry, ·)).getD (task.infer registry member) := by
  unfold resolveMember ruled?
  dsimp only
  split
  · rfl
  · split
    · rfl
    · cases task.request.directives.ignore? member.name with
      | some directive => rfl
      | none =>
          cases task.request.directives.mapMember? member.name with
          | some directive => rfl
          | none =>
              dsimp only
              cases (task.request.directives.collection? member.name).bind (task.collectedByUser? member) <;>
                rfl

/-- The rules for the constructor, each with what it decides. -/
inductive ConstructorRule (task : MappingTask) (registry : EnumRegistry) :
    EnumRegistry × ConstructorResult → Prop
  | noConstructor (unasked : task.request.directives.constructor = none)
      (nothing : task.destinationStruct.constructors = []) :
      ConstructorRule task registry (registry, .refused .noConstructor
        (.error task.request.method.location (.noAccessibleConstructor task.destination.ident)))
  | onlyParameterless (constructor : Constructor)
      (unasked : task.request.directives.constructor = none)
      (only : task.destinationStruct.constructors = [constructor])
      (bare : constructor.isParameterless = true) :
      ConstructorRule task registry
        (registry, .call .autoSingleParameterless constructor [] [])
  | onlyFed (constructor : Constructor) (found : List MatchedParameter)
      (unasked : task.request.directives.constructor = none)
      (only : task.destinationStruct.constructors = [constructor])
      (takes : constructor.isParameterless = false)
      (fed : constructor.parameters.mapM task.feed? = some found) :
      ConstructorRule task registry ((task.buildArguments registry found).1,
        .call .autoSingleParameterizedMapped constructor (task.buildArguments registry found).2
          (task.claims constructor))
  | onlyUnfed (constructor : Constructor)
      (unasked : task.request.directives.constructor = none)
      (only : task.destinationStruct.constructors = [constructor])
      (takes : constructor.isParameterless = false)
      (unfed : constructor.parameters.mapM task.feed? = none) :
      ConstructorRule task registry (registry, .refused .requiredButMissingError
        (.error task.request.method.location
          (.parameterizedConstructorRequired task.destination.ident task.constructorTexts)))
  | several (first second : Constructor) (others : List Constructor)
      (unasked : task.request.directives.constructor = none)
      (choices : task.destinationStruct.constructors = first :: second :: others) :
      ConstructorRule task registry (registry, .refused .ambiguousError
        (.error task.request.method.location
          (.ambiguousConstructor task.destination.ident task.constructorTexts)))
  | askedEmpty (location : Location) (constructor : Constructor)
      (asked : task.request.directives.constructor = some (.empty location))
      (found : task.destinationStruct.constructors.find? (·.isParameterless) = some constructor) :
      ConstructorRule task registry (registry, .call .explicitEmpty constructor [] [])
  | askedEmptyMissing (location : Location)
      (asked : task.request.directives.constructor = some (.empty location))
      (missing : task.destinationStruct.constructors.find? (·.isParameterless) = none) :
      ConstructorRule task registry (registry, .refused .requiredButMissingError
        (.error location
          (.emptyConstructorNotPossible task.destination.ident task.constructorTexts)))
  | askedArguments (arguments : List Transform) (location : Location) (constructor : Constructor)
      (asked : task.request.directives.constructor = some (.arguments arguments location))
      (found : task.destinationStruct.constructors.find?
        (·.parameters.length == arguments.length) = some constructor) :
      ConstructorRule task registry (registry, task.explicitConstructor constructor arguments)
  | askedArgumentsMissing (arguments : List Transform) (location : Location)
      (asked : task.request.directives.constructor = some (.arguments arguments location))
      (missing : task.destinationStruct.constructors.find?
        (·.parameters.length == arguments.length) = none) :
      ConstructorRule task registry (registry, .refused .requiredButMissingError
        (.error location (.constructorArgumentCount task.destination.ident arguments.length
          task.constructorTexts)))

/-- One of the rules decides about the constructor. -/
theorem resolveConstructor_rule (task : MappingTask) (registry : EnumRegistry) :
    task.ConstructorRule registry (task.resolveConstructor registry) := by
  unfold resolveConstructor
  cases asked : task.request.directives.constructor with
  | none =>
      simp only [inferConstructor]
      match choices : task.destinationStruct.constructors with
      | [] => exact .noConstructor asked choices
      | [constructor] =>
          cases bare : constructor.isParameterless with
          | true =>
              simp only [bare, ↓reduceIte]
              exact .onlyParameterless constructor asked choices bare
          | false =>
              simp only [bare, Bool.false_eq_true, ↓reduceIte, onlyConstructor]
              cases fed : constructor.parameters.mapM task.feed? with
              | none => exact .onlyUnfed constructor asked choices bare fed
              | some found => exact .onlyFed constructor found asked choices bare fed
      | first :: second :: others => exact .several first second others asked choices
  | some choice =>
      cases choice with
      | empty location =>
          cases found : task.destinationStruct.constructors.find? (·.isParameterless) with
          | none =>
              simp only [found]
              exact .askedEmptyMissing location asked found
          | some constructor =>
              simp only [found]
              exact .askedEmpty location constructor asked found
      | arguments arguments location =>
          cases found : task.destinationStruct.constructors.find?
              (·.parameters.length == arguments.length) with
          | none =>
              simp only [found]
              exact .askedArgumentsMissing arguments location asked found
          | some constructor =>
              simp only [found]
              exact .askedArguments arguments location constructor asked found

/-- What an argument of the user becomes, or why it is refused. -/
def writtenArgument (task : MappingTask) (pair : Parameter × Transform) :
    Except Diagnostic ConstructorArgument :=
  match pair.2.inline? task.params false task.sourceParam with
  | some text => .ok ⟨pair.1.name, .verbatim text⟩
  | none => .error (.error pair.2.location (.closureBlock DirectiveName.useConstructor.text))

/-- A constructor is called with what the arguments become, unless some are refused. -/
theorem explicitConstructor_written (task : MappingTask) (constructor : Constructor)
    (arguments : List Transform) :
    task.explicitConstructor constructor arguments =
      let values := (constructor.parameters.zip arguments).map task.writtenArgument
      let refused := values.filterMap fun value =>
        match value with
        | .ok _ => none
        | .error diagnostic => some diagnostic
      if refused.isEmpty then
        .call .explicitParameterized constructor (values.filterMap (·.toOption)) (task.claims constructor)
      else ⟨none, .requiredButMissingError, task.claims constructor, refused⟩ :=
  rfl

/-- A call of the constructor with arguments that the user wrote, each for one of its parameters. -/
structure IsWrittenCall (task : MappingTask) (constructor : Constructor) (call : ConstructorPlan) : Prop where
  calls : call.constructor = constructor
  claimed : call.claimed = task.claims constructor
  arguments : ∀ argument ∈ call.arguments, ∃ parameter ∈ constructor.parameters, ∃ text,
    argument = ⟨parameter.name, .verbatim text⟩

theorem explicitConstructor_isWritten {task : MappingTask} {constructor : Constructor} {arguments : List Transform}
    {call : ConstructorPlan} (planned : (task.explicitConstructor constructor arguments).plan = some call) :
    task.IsWrittenCall constructor call := by
  rw [explicitConstructor_written] at planned
  dsimp only at planned
  split at planned
  · cases planned
    refine ⟨rfl, rfl, ?_⟩
    intro argument present
    obtain ⟨value, isValue, same⟩ := List.mem_filterMap.mp present
    obtain ⟨⟨parameter, transform⟩, isPair, rfl⟩ := List.mem_map.mp isValue
    unfold writtenArgument at same
    split at same
    · cases same
      exact ⟨parameter, (List.of_mem_zip isPair).1, _, rfl⟩
    · cases same
  · cases planned

/-- A parameter is fed from a readable member of the source whose type can be converted. -/
theorem feed?_some (task : MappingTask) (parameter : Parameter) (found : MatchedParameter)
    (fed : task.feed? parameter = some found) :
    found.parameter = parameter ∧ found.member ∈ task.sourceStruct.members ∧
      found.member.readable = true ∧
      found.relation = task.relation found.member.type parameter.type ∧
      found.relation.isCompatible = true := by
  obtain ⟨member, matched, compatible⟩ := Option.bind_eq_some_iff.mp fed
  obtain ⟨present, readable⟩ := Option.filter_eq_some_iff.mp matched
  dsimp only at compatible
  split at compatible
  · next isCompatible =>
      cases compatible
      exact ⟨rfl, (StructType.mem_of_memberIgnoringCase? present).1, readable, rfl, isCompatible⟩
  · cases compatible

end MappingTask

namespace Request

/-- A request resolves as the task does that it becomes. -/
theorem resolve_ok (request : Request) (schema : Schema) (resolution : Resolution) :
    request.resolve schema = .ok resolution ↔
      ∃ task, request.toTask schema = .ok task ∧ task.resolve = resolution := by
  unfold resolve
  cases request.toTask schema <;> simp [Except.map]

/-- A resolution is that of the task that the request becomes, whose destination is laid out. -/
theorem resolve_task (request : Request) (draft : SchemaDraft) (schema : Schema)
    (resolution : Resolution) (built : draft.build = .ok schema)
    (resolved : request.resolve schema = .ok resolution) :
    ∃ task id, request.toTask schema = .ok task ∧ task.destinationStruct.IsLaidOut id ∧
      resolution = task.resolve := by
  obtain ⟨task, accepted, same⟩ := (request.resolve_ok schema resolution).mp resolved
  obtain ⟨id, _, found, isStruct⟩ := (request.toTask_ok schema task accepted).destination
  exact ⟨task, id, accepted,
    draft.build_struct schema built id task.destination _ found isStruct, same.symm⟩

end Request

end ObjectMapping
