/-
This file tells where the values of a plan come from: what the user wrote, what a readable member of the
source is converted to, and the collections that the user's item transforms make. What holds of every value
of a plan is shown rule by rule.
-/

import ObjectMapping.Proofs.Resolution.Accounting
import ObjectMapping.Proofs.Resolution.Typing

namespace ObjectMapping

/-- The values that a plan writes: the arguments of its constructor, then what is assigned. -/
def Plan.values (plan : Plan) : List Expr :=
  (plan.constructor.elim [] fun call => call.arguments.map (·.expr)) ++ plan.assignments.map (·.expr)

namespace MappingTask

/-- The ways in which a single value is converted from one type to another. -/
inductive SingleRule (task : MappingTask) (value : Expr) : TypeRef → TypeRef → Expr → Prop
  | exact (type : TypeRef) : SingleRule task value type type value
  | enum (key : EnumKey) (function : String) :
      SingleRule task value key.argument key.result (.enumConvert function value)
  | implicit (conversion : Conversion) (source destination : TypeRef)
      (converts : conversion.Converts source destination) :
      SingleRule task value source destination (conversion.apply value)
  | delegated (delegation : Delegation) (source destination : TypeRef)
      (takes : delegation.Takes task.request.delegates task.params.length source destination) :
      SingleRule task value source destination (task.delegateCall delegation value)

/-- The ways in which a value is converted: as a single value, or one level deep, element by element. -/
inductive ConversionRule (task : MappingTask) (value : Expr) : TypeRef → TypeRef → Expr → Prop
  | single (source destination : TypeRef) (made : Expr)
      (rule : SingleRule task value source destination made) :
      ConversionRule task value source destination made
  | elements (kind target : CollectionKind) (source destination : TypeRef) (transform : Expr)
      (each : SingleRule task (.item (task.elementName source) source) source destination transform) :
      ConversionRule task value (.collection kind source) (.collection target destination)
        (.collect value (task.elementName source) transform target)

/-- The ways in which the user gives a value for a destination type. -/
inductive UserRule (task : MappingTask) (destination : TypeRef) : Expr → Prop
  | written (text : String) : UserRule task destination (.verbatim text)
  | collected (directive : MapCollection) (member : Member) (transform : String)
      (given : directive ∈ task.request.directives.collections)
      (present : member ∈ task.sourceStruct.members) (readable : member.readable = true) :
      UserRule task destination (.collect (task.read member)
        (task.binderOf directive.item member.type.element?) (.verbatim transform)
        (destination.collectionKind?.getD .vec))
  | collectedWritten (directive : MapCollection) (source transform : String)
      (given : directive ∈ task.request.directives.collections) :
      UserRule task destination (.collectVerbatim source (task.binderOf directive.item none)
        (.verbatim transform) (destination.collectionKind?.getD .vec))

/-- The ways in which a collection comes about for a destination of some name and type. Without a directive a
collection is converted element by element; with one the user's item transform is applied to the elements of
what the user wrote, or of the source member of that name. -/
inductive CollectionRule (task : MappingTask) (name : String) (destination : TypeRef) :
    Option MapCollection → Expr → Prop
  | inferred (source : Member) (kind target : CollectionKind) (element made : TypeRef) (transform : Expr)
      (present : source ∈ task.sourceStruct.members) (readable : source.readable = true)
      (sourceType : source.type = .collection kind element)
      (destinationType : destination = .collection target made) :
      CollectionRule task name destination none
        (.collect (task.read source) (task.elementName element) transform target)
  | collected (directive : MapCollection) (source : Member) (transform : String)
      (unwritten : directive.source = none) (found : task.sourceMember? name = some source) :
      CollectionRule task name destination (some directive)
        (.collect (task.read source) (task.binderOf directive.item source.type.element?) (.verbatim transform)
          (destination.collectionKind?.getD .vec))
  | collectedWritten (directive : MapCollection) (written : Transform) (source transform : String)
      (given : directive.source = some written) :
      CollectionRule task name destination (some directive)
        (.collectVerbatim source (task.binderOf directive.item none) (.verbatim transform)
          (destination.collectionKind?.getD .vec))

/-- The ways in which a value for a destination type comes about. -/
inductive ValueRule (task : MappingTask) (destination : TypeRef) : Expr → Prop
  | given (value : Expr) (rule : task.UserRule destination value) : ValueRule task destination value
  | converted (member : Member) (value : Expr)
      (present : member ∈ task.sourceStruct.members) (readable : member.readable = true)
      (rule : task.ConversionRule (task.read member) member.type destination value) :
      ValueRule task destination value

variable {task : MappingTask}

theorem convertElement_rule {registry : EnumRegistry} {value : Expr} {source destination : TypeRef}
    {relation : ElementRelation} (related : relation.Relates source destination) :
    task.SingleRule value source destination (task.convertElement registry value relation).2 := by
  cases related with
  | exact => exact .exact source
  | enum key => exact .enum key _
  | implicit conversion _ _ converts => exact .implicit conversion source destination converts

/-- Inference converts a value in one of the ways. -/
theorem convert?_rule {registry : EnumRegistry} {value : Expr} {source destination : TypeRef}
    {found : EnumRegistry × Expr}
    (converted : task.convert? registry value source destination (task.relation source destination) =
      some found) : task.ConversionRule value source destination found.2 := by
  have related := TypeRelation.classify_relates task.schema task.request.delegates task.params.length
    source destination (task.convert?_compatible _ _ _ _ _ _ converted)
  rw [relation] at converted
  generalize TypeRelation.classify task.schema task.request.delegates task.params.length source
    destination = relation at related converted
  cases related with
  | exact =>
      cases converted
      exact .single _ _ _ (.exact source)
  | enum key =>
      cases converted
      exact .single _ _ _ (.enum key _)
  | implicit conversion _ _ converts =>
      cases converted
      exact .single _ _ _ (.implicit conversion source destination converts)
  | collection kind target relation source destination related =>
      cases converted
      exact .elements kind target source destination _ (convertElement_rule related)
  | delegated delegation _ _ single takes =>
      simp only [convert?, single, Bool.false_eq_true, ↓reduceIte] at converted
      cases converted
      exact .single _ _ _ (.delegated delegation source destination takes)
  | delegatedElements kind target delegation source destination each takes =>
      simp only [convert?, each, ↓reduceIte, TypeRef.element?, Option.map_some] at converted
      cases converted
      exact .elements kind target source destination _ (.delegated delegation source destination takes)

/-- What the user maps a member to is written. -/
theorem mappedByUser_written {directive : MapMember} {value : Expr}
    (assigned : task.mappedByUser directive = .assigned value) : ∃ text, value = .verbatim text := by
  obtain ⟨text, decided⟩ | decided := task.mappedByUser_cases directive
  · cases decided.symm.trans assigned
    exact ⟨text, rfl⟩
  · cases decided.symm.trans assigned

theorem mappedByUser_value {directive : MapMember} {value : Expr} (destination : TypeRef)
    (assigned : task.mappedByUser directive = .assigned value) : task.UserRule destination value := by
  obtain ⟨text, rfl⟩ := mappedByUser_written assigned
  exact .written text

theorem CollectRule.collection {member : Member} {directive : MapCollection} {value : Expr}
    (rule : task.CollectRule member directive (some (.assigned value))) :
    task.CollectionRule member.name member.type (some directive) value := by
  cases rule with
  | written source text transform given => exact .collectedWritten directive source text transform given
  | read source transform unwritten found => exact .collected directive source transform unwritten found

theorem CollectRule.value {member : Member} {directive : MapCollection} {value : Expr}
    (rule : task.CollectRule member directive (some (.assigned value)))
    (given : directive ∈ task.request.directives.collections) : task.UserRule member.type value := by
  cases rule with
  | written _ text transform => exact .collectedWritten directive text transform given
  | read source transform _ found =>
      obtain ⟨present, readable⟩ := sourceMember?_some found
      exact .collected directive source transform given present readable

/-- What is assigned before anything is inferred is what the user gives. -/
theorem ruled?_given {member : Member} {value : Expr}
    (decided : task.ruled? member = some (.assigned value)) : task.UserRule member.type value := by
  unfold ruled? at decided
  split at decided
  · cases decided
  · split at decided
    · cases decided
    · split at decided
      · exact absurd (Option.some.inj decided) (ignoredByUser_ne member _ value)
      · split at decided
        · exact mappedByUser_value member.type (Option.some.inj decided)
        · obtain ⟨directive, found, decided⟩ := Option.bind_eq_some_iff.mp decided
          exact (collectedByUser?_rule decided).value (List.mem_of_find?_eq_some found)

theorem InferRule.value {registry : EnumRegistry} {member : Member} {decision : EnumRegistry × Verdict}
    (rule : task.InferRule registry member decision) {value : Expr} (assigned : decision.2 = .assigned value) :
    task.ValueRule member.type value := by
  cases rule with
  | missing | mismatched => cases assigned
  | converted source extended _ found made =>
      cases assigned
      obtain ⟨present, readable⟩ := sourceMember?_some found
      exact .converted source _ present readable (convert?_rule made)

/-- What a member is assigned comes about in one of the ways, by whatever rule it is found. -/
theorem MemberRule.value {registry : EnumRegistry} {member : Member}
    {decision : EnumRegistry × Verdict} (rule : task.MemberRule registry member decision) {value : Expr}
    (assigned : decision.2 = .assigned value) : task.ValueRule member.type value := by
  cases rule with
  | system | notSettable => cases assigned
  | ignored directive =>
      exact absurd assigned (ignoredByUser_ne member directive value)
  | mapped directive => exact .given value (mappedByUser_value member.type assigned)
  | collected directive verdict _ _ found decided =>
      obtain rfl : verdict = .assigned value := assigned
      exact .given value ((collectedByUser?_rule decided).value (List.mem_of_find?_eq_some found))
  | inferred => exact (task.infer_rule registry member).value assigned

/-- An argument comes about for a parameter of the constructor. -/
def IsArgument (task : MappingTask) (constructor : Constructor) (argument : ConstructorArgument) : Prop :=
  ∃ parameter ∈ constructor.parameters, argument.param = parameter.name ∧
    task.ValueRule parameter.type argument.expr

/-- A readable member of the source is converted to the destination type. -/
def IsConverted (task : MappingTask) (destination : TypeRef) (value : Expr) : Prop :=
  ∃ member ∈ task.sourceStruct.members, member.readable = true ∧
    task.ConversionRule (task.read member) member.type destination value

/-- What a matched parameter is fed with is converted to its type. -/
theorem buildArguments_converted {registry : EnumRegistry} {parameters : List Parameter}
    {found : List MatchedParameter}
    (fed : List.Forall₂ (fun parameter found => task.feed? parameter = some found) parameters found) :
    ∀ argument ∈ (task.buildArguments registry found).2, ∃ parameter ∈ parameters,
      argument.param = parameter.name ∧ task.IsConverted parameter.type argument.expr := by
  induction fed generalizing registry with
  | nil => nofun
  | @cons parameter matched parameters others matching _ inductionHypothesis =>
      obtain ⟨sameParameter, present, readable, isRelation, _⟩ := task.feed?_some parameter matched matching
      have ofOthers : ∀ extended, ∀ argument ∈ (task.buildArguments extended others).2,
          ∃ other ∈ parameter :: parameters, argument.param = other.name ∧
            task.IsConverted other.type argument.expr := by
        intro extended argument inRest
        obtain ⟨other, listed, feeds⟩ := inductionHypothesis argument inRest
        exact ⟨other, List.mem_cons_of_mem _ listed, feeds⟩
      rw [buildArguments, isRelation, sameParameter]
      split
      · next extended expr converted =>
          refine List.forall_mem_cons.mpr ⟨⟨parameter, List.mem_cons_self, rfl, ?_⟩, ofOthers extended⟩
          exact ⟨matched.member, present, readable, convert?_rule converted⟩
      · exact ofOthers registry

/-- The arguments of a constructor are written or converted, by whatever rule it is chosen. -/
theorem ConstructorRule.argument {registry : EnumRegistry} {decision : EnumRegistry × ConstructorResult}
    (rule : task.ConstructorRule registry decision) {call : ConstructorPlan}
    (planned : decision.2.plan = some call) : ∀ argument ∈ call.arguments,
      ∃ parameter ∈ call.constructor.parameters, argument.param = parameter.name ∧
        ((∃ text, argument.expr = .verbatim text) ∨ task.IsConverted parameter.type argument.expr) := by
  cases rule with
  | noConstructor | onlyUnfed | several | askedEmptyMissing | askedArgumentsMissing => cases planned
  | onlyParameterless | askedEmpty =>
      cases planned
      nofun
  | onlyFed constructor found _ _ _ fed =>
      cases planned
      intro argument present
      obtain ⟨parameter, listed, named, converted⟩ :=
        buildArguments_converted ((mapM_some _ _ _).mp fed) argument present
      exact ⟨parameter, listed, named, .inr converted⟩
  | askedArguments =>
      intro argument present
      have written := explicitConstructor_isWritten planned
      obtain ⟨parameter, listed, text, rfl⟩ := written.arguments argument present
      exact ⟨parameter, written.calls ▸ listed, rfl, .inl ⟨text, rfl⟩⟩

/-- The arguments of a constructor come about in one of the ways, by whatever rule it is chosen. -/
theorem ConstructorRule.value {registry : EnumRegistry} {decision : EnumRegistry × ConstructorResult}
    (rule : task.ConstructorRule registry decision) {call : ConstructorPlan}
    (planned : decision.2.plan = some call) :
    ∀ argument ∈ call.arguments, task.IsArgument call.constructor argument := by
  intro argument present
  obtain ⟨parameter, listed, named, ⟨text, written⟩ | ⟨member, isMember, readable, converted⟩⟩ :=
    rule.argument planned argument present
  · exact ⟨parameter, listed, named, .given _ (written ▸ .written text)⟩
  · exact ⟨parameter, listed, named, .converted member _ isMember readable converted⟩

theorem assignments_value : ∀ assignment ∈ task.resolve.plan.assignments,
    ∃ member ∈ task.destinationStruct.members, member.name = assignment.member ∧
      task.ValueRule member.type assignment.expr := by
  intro assignment present
  obtain ⟨result, listed, named, _, assigned⟩ := task.assignments_result present
  refine ⟨result.member, task.memberResults_member listed, named, ?_⟩
  obtain ⟨_, claimed⟩ | ⟨_, before, after, rule⟩ := task.resolveMembers_rules _ _ _ result listed
  · rw [claimed] at assigned
    cases assigned
  · exact rule.value assigned

/-- Every value of a plan comes about in one of the ways. -/
theorem resolve_values : ∀ value ∈ task.resolve.plan.values, ∃ destination, task.ValueRule destination value := by
  intro value present
  obtain ofConstructor | assigned := List.mem_append.mp present
  · cases planned : task.resolve.plan.constructor with
    | none =>
        rw [planned] at ofConstructor
        cases ofConstructor
    | some call =>
        rw [planned] at ofConstructor
        obtain ⟨argument, isArgument, rfl⟩ := List.mem_map.mp ofConstructor
        obtain ⟨parameter, _, _, rule⟩ :=
          (task.resolveConstructor_rule task.pairedRegistry).value planned argument isArgument
        exact ⟨parameter.type, rule⟩
  · obtain ⟨assignment, isAssignment, rfl⟩ := List.mem_map.mp assigned
    obtain ⟨member, _, _, rule⟩ := assignments_value assignment isAssignment
    exact ⟨member.type, rule⟩

end MappingTask

end ObjectMapping
