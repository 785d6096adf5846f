/-
This file proves that the choice of a constructor is exact: a constructor is called if and only if nothing about it
is reported, the call is one of the constructor that the directives select, with an argument for each of its
parameters, and what is claimed are the members that the parameters name.
-/

import ObjectMapping.Proofs.Concat
import ObjectMapping.Proofs.Resolution.Accounting
import ObjectMapping.Proofs.Resolution.Typing

namespace ObjectMapping

/-- The states in which the destination is created. -/
def ConstructorState.calling : List ConstructorState :=
  [.explicitEmpty, .explicitParameterized, .autoSingleParameterless, .autoSingleParameterizedMapped]

/-- The states in which the parameters of the constructor claim members. -/
def ConstructorState.claiming : List ConstructorState := [.explicitParameterized, .autoSingleParameterizedMapped]

theorem ConstructorState.claiming_subset : claiming ⊆ calling := by decide

/-- The members of a struct that parameters name, ignoring case, each once and in the order of the parameters. -/
def StructType.namedBy (type : StructType) (parameters : List Parameter) : List String :=
  (parameters.filterMap fun parameter => (type.memberIgnoringCase? parameter.name).map (·.name)).eraseDups

/-- A value expression can stand in place of a value unless it is a block. -/
theorem Transform.inline?_isSome (transform : Transform) (methodParams : List String) (keepFirst : Bool)
    (argument : String) :
    (transform.inline? methodParams keepFirst argument).isSome = !transform.isBlock := by
  cases transform with
  | path => rfl
  | closure value =>
      unfold inline? Closure.inline? isBlock
      cases body : value.body <;> simp [body]

namespace MappingTask

/-- The constructors that the directives of a request select: the first without parameters, the first with a
parameter for each argument, or the only one. -/
inductive Selects (task : MappingTask) (constructor : Constructor) : Prop
  | empty (location : Location) (before after : List Constructor)
      (asked : task.request.directives.constructor = some (.empty location))
      (choices : task.destinationStruct.constructors = before ++ constructor :: after)
      (bare : constructor.parameters = [])
      (first : ∀ other ∈ before, other.parameters ≠ [])
  | arguments (arguments : List Transform) (location : Location) (before after : List Constructor)
      (asked : task.request.directives.constructor = some (.arguments arguments location))
      (choices : task.destinationStruct.constructors = before ++ constructor :: after)
      (fits : constructor.parameters.length = arguments.length)
      (first : ∀ other ∈ before, other.parameters.length ≠ arguments.length)
  | only (unasked : task.request.directives.constructor = none)
      (only : task.destinationStruct.constructors = [constructor])

/-- The user's arguments select a constructor, and one of them is a block. -/
def IsBlocked (task : MappingTask) : Prop :=
  ∃ arguments location, task.request.directives.constructor = some (.arguments arguments location) ∧
    (∃ constructor, task.Selects constructor) ∧ ∃ argument ∈ arguments, argument.isBlock = true

/-- What is decided about the constructor, in terms of what is selected. -/
structure IsDecision (task : MappingTask) (result : ConstructorResult) : Prop where
  unreported : result.plan.isSome = true ↔ result.diagnostics = []
  state : result.plan.isSome = true ↔ result.state ∈ ConstructorState.calling
  selected : ∀ call, result.plan = some call → task.Selects call.constructor
  /-- There is one argument for each parameter, in the order of the parameters. -/
  arguments : ∀ call, result.plan = some call →
    call.arguments.map (·.param) = call.constructor.parameters.map (·.name)
  call : ∀ call, result.plan = some call → call.claimed = result.claimed
  blocked : task.IsBlocked → result.plan = none
  claimed : result.state ∈ ConstructorState.claiming ∨ task.IsBlocked → ∃ constructor,
    task.Selects constructor ∧ result.claimed = task.destinationStruct.namedBy constructor.parameters
  unclaimed : result.state ∉ ConstructorState.claiming → ¬ task.IsBlocked → result.claimed = []

variable (task : MappingTask)

theorem Selects.offered {task : MappingTask} {constructor : Constructor} (selected : task.Selects constructor) :
    constructor ∈ task.destinationStruct.constructors := by
  cases selected with
  | empty _ before after _ choices | arguments _ _ before after _ choices =>
      rw [choices]
      exact List.mem_append_right before List.mem_cons_self
  | only _ only => exact only ▸ List.mem_cons_self

/-- The claims of a constructor are the members that its parameters name. -/
theorem claims_namedBy (constructor : Constructor) :
    task.claims constructor = task.destinationStruct.namedBy constructor.parameters := by
  unfold claims StructType.namedBy
  induction constructor.parameters using List.reverseRecOn with
  | nil => rfl
  | append_singleton parameters parameter inductionHypothesis =>
      rw [List.foldl_concat, inductionHypothesis, List.filterMap_append]
      cases found : task.destinationStruct.memberIgnoringCase? parameter.name with
      | none => simp [found]
      | some member =>
          have one : [parameter].filterMap (fun parameter =>
              (task.destinationStruct.memberIgnoringCase? parameter.name).map (·.name)) = [member.name] := by
            simp [found]
          rw [one, eraseDups_concat]
          simp

theorem writtenArgument_plain (parameter : Parameter) {argument : Transform} (plain : argument.isBlock = false) :
    ∃ text, task.writtenArgument (parameter, argument) = .ok ⟨parameter.name, .verbatim text⟩ := by
  have inlined := argument.inline?_isSome task.params false task.sourceParam
  rw [plain, Bool.not_false, Option.isSome_iff_exists] at inlined
  obtain ⟨text, inlined⟩ := inlined
  exact ⟨text, by rw [writtenArgument, inlined]⟩

theorem writtenArgument_block (parameter : Parameter) {argument : Transform} (isBlock : argument.isBlock = true) :
    ∃ diagnostic, task.writtenArgument (parameter, argument) = .error diagnostic := by
  have inlined := argument.inline?_isSome task.params false task.sourceParam
  rw [isBlock, Bool.not_true, Option.isSome_eq_false_iff, Option.isNone_iff_eq_none] at inlined
  exact ⟨_, by rw [writtenArgument, inlined]⟩

/-- Arguments without a block are written down one for each parameter. -/
theorem writtenArguments_plain (parameters : List Parameter) (arguments : List Transform)
    (fits : parameters.length = arguments.length) (plain : ∀ argument ∈ arguments, argument.isBlock = false) :
    ∃ bound : List ConstructorArgument, (parameters.zip arguments).map task.writtenArgument = bound.map .ok ∧
      bound.map (·.param) = parameters.map (·.name) := by
  induction parameters generalizing arguments with
  | nil => exact ⟨[], rfl, rfl⟩
  | cons parameter rest inductionHypothesis =>
      cases arguments with
      | nil => cases fits
      | cons argument others =>
          obtain ⟨plainFirst, plainOthers⟩ := List.forall_mem_cons.mp plain
          obtain ⟨text, written⟩ := task.writtenArgument_plain parameter plainFirst
          obtain ⟨bound, allWritten, named⟩ := inductionHypothesis others (Nat.succ.inj fits) plainOthers
          refine ⟨⟨parameter.name, .verbatim text⟩ :: bound, ?_, ?_⟩
          · rw [List.zip_cons_cons, List.map_cons, written, allWritten, List.map_cons]
          · rw [List.map_cons, List.map_cons, named]

/-- The selected constructor is called if no argument is a block. -/
theorem explicitConstructor_plain (constructor : Constructor) (arguments : List Transform)
    (fits : constructor.parameters.length = arguments.length)
    (plain : ∀ argument ∈ arguments, argument.isBlock = false) :
    ∃ bound : List ConstructorArgument,
      task.explicitConstructor constructor arguments =
        .call .explicitParameterized constructor bound (task.claims constructor) ∧
      bound.map (·.param) = constructor.parameters.map (·.name) := by
  obtain ⟨bound, written, named⟩ := task.writtenArguments_plain constructor.parameters arguments fits plain
  refine ⟨bound, ?_, named⟩
  rw [explicitConstructor_written, written]
  simp [List.filterMap_map, Except.toOption]

/-- A block among the arguments is reported, and there is no call. -/
theorem explicitConstructor_block (constructor : Constructor) (arguments : List Transform)
    (fits : constructor.parameters.length = arguments.length) {argument : Transform}
    (given : argument ∈ arguments) (isBlock : argument.isBlock = true) :
    ∃ diagnostics, diagnostics ≠ [] ∧ task.explicitConstructor constructor arguments =
      ⟨none, .requiredButMissingError, task.claims constructor, diagnostics⟩ := by
  have paired : (constructor.parameters.zip arguments).map (·.2) = arguments :=
    List.map_snd_zip (Nat.le_of_eq fits.symm)
  rw [← paired] at given
  obtain ⟨⟨parameter, _⟩, isPair, rfl⟩ := List.mem_map.mp given
  obtain ⟨diagnostic, refused⟩ := task.writtenArgument_block parameter isBlock
  rw [explicitConstructor_written]
  dsimp only
  split
  · next none =>
      rw [List.isEmpty_iff, List.filterMap_eq_nil_iff] at none
      have accepted := none _ (List.mem_map_of_mem isPair)
      rw [refused] at accepted
      cases accepted
  · next some => exact ⟨_, by simpa using some, rfl⟩

variable {task}

theorem Selects.ofFirst {constructor : Constructor} {location : Location}
    (asked : task.request.directives.constructor = some (.empty location))
    (found : task.destinationStruct.constructors.find? (·.isParameterless) = some constructor) :
    task.Selects constructor := by
  obtain ⟨bare, before, after, choices, first⟩ := List.find?_eq_some_iff_append.mp found
  refine .empty location before after asked choices (by simpa [Constructor.isParameterless] using bare) ?_
  simpa [Constructor.isParameterless] using first

theorem Selects.ofArguments {constructor : Constructor} {arguments : List Transform} {location : Location}
    (asked : task.request.directives.constructor = some (.arguments arguments location))
    (found : task.destinationStruct.constructors.find? (·.parameters.length == arguments.length) =
      some constructor) : task.Selects constructor := by
  obtain ⟨fits, before, after, choices, first⟩ := List.find?_eq_some_iff_append.mp found
  refine .arguments arguments location before after asked choices (by simpa using fits) ?_
  simpa using first

theorem feeds_names {functions : List EnumFunction} {parameters : List Parameter}
    {arguments : List ConstructorArgument}
    (feeds : List.Forall₂ (task.Feeds functions) parameters arguments) :
    arguments.map (·.param) = parameters.map (·.name) := by
  induction feeds with
  | nil => rfl
  | cons fed _ inductionHypothesis => rw [List.map_cons, List.map_cons, fed.1, inductionHypothesis]

/-- What the user's arguments select takes as many of them. -/
theorem Selects.takes {constructor : Constructor} (selected : task.Selects constructor) {arguments : List Transform}
    {location : Location}
    (asked : task.request.directives.constructor = some (.arguments arguments location)) :
    constructor.parameters.length = arguments.length := by
  cases selected with
  | empty _ _ _ otherAsked | only otherAsked =>
      rw [asked] at otherAsked
      cases otherAsked
  | arguments others _ _ _ otherAsked _ fits =>
      rw [asked] at otherAsked
      cases otherAsked
      exact fits

/-- No argument is blocked where the user gives none. -/
theorem not_isBlocked (unasked : ∀ arguments location,
    task.request.directives.constructor ≠ some (.arguments arguments location)) : ¬ task.IsBlocked := by
  rintro ⟨arguments, location, asked, _⟩
  exact unasked arguments location asked

/-- Nothing is claimed where no constructor is called and no argument is blocked. -/
theorem refused_isDecision (state : ConstructorState) (diagnostic : Diagnostic)
    (fails : state ∉ ConstructorState.calling) (unblocked : ¬ task.IsBlocked) :
    task.IsDecision (.refused state diagnostic) where
  unreported := by simp [ConstructorResult.refused]
  state := by simpa [ConstructorResult.refused] using fails
  selected := nofun
  arguments := nofun
  call := nofun
  blocked := fun _ => rfl
  claimed := by
    rintro (claims | blocked)
    · exact absurd (ConstructorState.claiming_subset claims) fails
    · exact absurd blocked unblocked
  unclaimed := fun _ _ => rfl

theorem call_isDecision (state : ConstructorState) (constructor : Constructor)
    (arguments : List ConstructorArgument) (claimed : List String) (calls : state ∈ ConstructorState.calling)
    (selected : task.Selects constructor)
    (named : arguments.map (·.param) = constructor.parameters.map (·.name)) (unblocked : ¬ task.IsBlocked)
    (claims : state ∈ ConstructorState.claiming → claimed = task.claims constructor)
    (noClaims : state ∉ ConstructorState.claiming → claimed = []) :
    task.IsDecision (.call state constructor arguments claimed) where
  unreported := by simp [ConstructorResult.call]
  state := by simpa [ConstructorResult.call] using calls
  selected := by
    rintro _ ⟨⟩
    exact selected
  arguments := by
    rintro _ ⟨⟩
    exact named
  call := by
    rintro _ ⟨⟩
    rfl
  blocked := fun blocked => absurd blocked unblocked
  claimed := by
    rintro (isClaiming | blocked)
    · exact ⟨constructor, selected, (claims isClaiming).trans (task.claims_namedBy constructor)⟩
    · exact absurd blocked unblocked
  unclaimed := fun isOther _ => noClaims isOther

/-- A selected constructor is not called with a block; its parameters claim members all the same. -/
theorem block_isDecision (constructor : Constructor) (diagnostics : List Diagnostic)
    (selected : task.Selects constructor) (blocked : task.IsBlocked) (reported : diagnostics ≠ []) :
    task.IsDecision ⟨none, .requiredButMissingError, task.claims constructor, diagnostics⟩ where
  unreported := by simpa using reported
  state := by simp [ConstructorState.calling]
  selected := nofun
  arguments := nofun
  call := nofun
  blocked := fun _ => rfl
  claimed := fun _ => ⟨constructor, selected, task.claims_namedBy constructor⟩
  unclaimed := fun _ unblocked => absurd blocked unblocked

/-- The user's arguments decide as the constructor that they select asks them to. -/
theorem explicitConstructor_isDecision {constructor : Constructor} {arguments : List Transform}
    {location : Location}
    (asked : task.request.directives.constructor = some (.arguments arguments location))
    (found : task.destinationStruct.constructors.find? (·.parameters.length == arguments.length) =
      some constructor) : task.IsDecision (task.explicitConstructor constructor arguments) := by
  have selected := Selects.ofArguments asked found
  have fits : constructor.parameters.length = arguments.length := by simpa using List.find?_some found
  by_cases someBlock : ∃ argument ∈ arguments, argument.isBlock = true
  · have blocked : task.IsBlocked := ⟨arguments, location, asked, ⟨constructor, selected⟩, someBlock⟩
    obtain ⟨argument, given, isBlock⟩ := someBlock
    obtain ⟨diagnostics, reported, same⟩ :=
      task.explicitConstructor_block constructor arguments fits given isBlock
    rw [same]
    exact block_isDecision constructor diagnostics selected blocked reported
  · have plain : ∀ argument ∈ arguments, argument.isBlock = false := by simpa using someBlock
    have unblocked : ¬ task.IsBlocked := by
      rintro ⟨others, _, otherAsked, _, otherBlock⟩
      rw [asked] at otherAsked
      cases otherAsked
      exact someBlock otherBlock
    obtain ⟨bound, same, named⟩ := task.explicitConstructor_plain constructor arguments fits plain
    rw [same]
    exact call_isDecision _ constructor bound _ (by decide) selected named unblocked (fun _ => rfl)
      (absurd (by decide))

/-- Each of the rules decides by what is selected. -/
theorem ConstructorRule.isDecision {registry : EnumRegistry} {decision : EnumRegistry × ConstructorResult}
    (rule : task.ConstructorRule registry decision) : task.IsDecision decision.2 := by
  cases rule with
  | noConstructor unasked | onlyUnfed _ unasked | several _ _ _ unasked =>
      exact refused_isDecision _ _ (by decide) (not_isBlocked (by simp [unasked]))
  | onlyParameterless constructor unasked only bare =>
      have noParameters : constructor.parameters = [] := List.isEmpty_iff.mp bare
      exact call_isDecision _ constructor [] [] (by decide) (.only unasked only) (by simp [noParameters])
        (not_isBlocked (by simp [unasked])) (absurd · (by decide)) (fun _ => rfl)
  | onlyFed constructor found unasked only _ fed =>
      obtain ⟨_, feeds⟩ := task.buildArguments_typed registry _ _ ((mapM_some _ _ _).mp fed)
      exact call_isDecision _ constructor _ _ (by decide) (.only unasked only) (feeds_names feeds)
        (not_isBlocked (by simp [unasked])) (fun _ => rfl) (absurd (by decide))
  | askedEmpty location constructor asked found =>
      have bare : constructor.isParameterless = true := List.find?_some found
      have noParameters : constructor.parameters = [] := List.isEmpty_iff.mp bare
      exact call_isDecision _ constructor [] [] (by decide) (.ofFirst asked found) (by simp [noParameters])
        (not_isBlocked (by simp [asked])) (absurd · (by decide)) (fun _ => rfl)
  | askedEmptyMissing location asked =>
      exact refused_isDecision _ _ (by decide) (not_isBlocked (by simp [asked]))
  | askedArguments arguments location constructor asked found => exact explicitConstructor_isDecision asked found
  | askedArgumentsMissing arguments location asked missing =>
      refine refused_isDecision _ _ (by decide) ?_
      rintro ⟨_, _, _, ⟨constructor, selected⟩, _⟩
      have unfit := List.find?_eq_none.mp missing constructor selected.offered
      exact unfit (by simpa using selected.takes asked)

/-- What makes the choice of a constructor exact in a resolution. -/
structure Constructs (task : MappingTask) (resolution : Resolution) : Prop where
  plan : resolution.plan.constructor = task.constructorResult.plan
  state : resolution.plan.state = task.constructorResult.state
  /-- What is reported about the constructor comes behind the enum pairs and before the members. -/
  diagnostics : resolution.diagnostics = task.request.directives.enums.filterMap task.pairDiagnostic? ++
    task.constructorResult.diagnostics ++ task.memberResults.filterMap (·.verdict.diagnostic?)
  claimed : ∀ name, name ∈ task.constructorResult.claimed ↔ ⟨name, .constructor⟩ ∈ resolution.plan.outcomes
  decision : task.IsDecision task.constructorResult

end MappingTask

/-- Whatever resolves, the choice of its constructor is exact. -/
theorem Request.resolve_constructs (schema : Schema) (request : Request) (resolution : Resolution)
    (resolved : request.resolve schema = .ok resolution) :
    ∃ task, request.toTask schema = .ok task ∧ task.Constructs resolution := by
  obtain ⟨task, accepted, rfl⟩ := (request.resolve_ok schema resolution).mp resolved
  exact ⟨task, accepted, rfl, rfl, task.resolve_diagnostics, task.claimed_outcome,
    (task.resolveConstructor_rule task.pairedRegistry).isDecision⟩

/-- Maps orders to summaries whose identifier would take several statements. -/
def blockedRequest : Request :=
  { orderRequest with
    directives := ⟨[], [], [], some (.arguments [.closure ⟨["order"], .block, ⟨6, 25⟩⟩] ⟨6, 8⟩), []⟩ }

/-- An order makes a summary by the constructor that takes its identifier; a block in its place still claims it. -/
theorem orderRequest_constructs :
    (∃ resolution, orderRequest.resolve SchemaDraft.orderSchema = .ok resolution ∧
      resolution.plan.state = .autoSingleParameterizedMapped ∧
      ∃ task, orderRequest.toTask SchemaDraft.orderSchema = .ok task ∧ task.Constructs resolution) ∧
    ∃ resolution, blockedRequest.resolve SchemaDraft.orderSchema = .ok resolution ∧
      resolution.plan.constructor.isNone = true ∧ ⟨"id", .constructor⟩ ∈ resolution.plan.outcomes ∧
      ∃ task, blockedRequest.toTask SchemaDraft.orderSchema = .ok task ∧ task.Constructs resolution :=
  ⟨⟨_, rfl, rfl, Request.resolve_constructs SchemaDraft.orderSchema orderRequest _ rfl⟩,
    ⟨_, rfl, rfl, .head _, Request.resolve_constructs SchemaDraft.orderSchema blockedRequest _ rfl⟩⟩

end ObjectMapping
