/-
This file proves that directives act locally: what the user says of one member of the destination decides
neither about the constructor nor about the other members, whose values keep their conversions.
-/

import ObjectMapping.Proofs.Resolution.FurtherMappers

namespace ObjectMapping

/-- The directives without those that name the given member. -/
def Directives.apartFrom (directives : Directives) (name : String) : Directives :=
  { directives with
    mapMembers := directives.mapMembers.filter (·.member != name)
    ignores := directives.ignores.filter (·.member != name)
    collections := directives.collections.filter (·.member != name) }

/-- The request without the directives that name the given member. -/
def Request.apartFrom (request : Request) (name : String) : Request :=
  { request with directives := request.directives.apartFrom name }

namespace Directives

variable {first second : Directives} {name other : String}

/-- Leaving out what names one member keeps what is found for another. -/
theorem find?_apart {α : Type} (member : α → String) (directives : List α) (differs : other ≠ name) :
    (directives.filter (member · != name)).find? (member · == other) =
      directives.find? (member · == other) := by
  rw [List.find?_filter]
  refine congrArg (directives.find? ·) (funext fun directive => ?_)
  by_cases named : member directive = other
  · simp [named, differs]
  · simp [named]

variable (same : first.apartFrom name = second.apartFrom name) (differs : other ≠ name)

include same differs

theorem ignore?_apart : second.ignore? other = first.ignore? other := by
  have kept : first.ignores.filter (·.member != name) = second.ignores.filter (·.member != name) :=
    congrArg ignores same
  rw [ignore?, ignore?, ← find?_apart _ first.ignores differs, kept, find?_apart _ _ differs]

theorem mapMember?_apart : second.mapMember? other = first.mapMember? other := by
  have kept : first.mapMembers.filter (·.member != name) = second.mapMembers.filter (·.member != name) :=
    congrArg mapMembers same
  rw [mapMember?, mapMember?, ← find?_apart _ first.mapMembers differs, kept, find?_apart _ _ differs]

theorem collection?_apart : second.collection? other = first.collection? other := by
  have kept : first.collections.filter (·.member != name) = second.collections.filter (·.member != name) :=
    congrArg collections same
  rw [collection?, collection?, ← find?_apart _ first.collections differs, kept, find?_apart _ _ differs]

end Directives

/-- The same decision about a member in two plans, each with its own names for its enum functions. -/
inductive Verdict.Agrees (first second : List EnumFunction) : Verdict → Verdict → Prop
  | claimed : Agrees first second .claimed .claimed
  | assigned (value other : Expr) (agrees : value.Agrees first second other) :
      Agrees first second (.assigned value) (.assigned other)
  | ignored (reason : IgnoreReason) : Agrees first second (.ignored reason) (.ignored reason)
  | diagnosed (diagnostic : Diagnostic) : Agrees first second (.diagnosed diagnostic) (.diagnosed diagnostic)

namespace Verdict.Agrees

variable {first second : List EnumFunction} {before after : Verdict}

theorem addFunctions {more others : List EnumFunction} (kept : first ⊆ more) (alsoKept : second ⊆ others)
    (agrees : Agrees first second before after) : Agrees more others before after := by
  cases agrees with
  | claimed => exact .claimed
  | assigned value other agrees => exact .assigned value other (agrees.addFunctions kept alsoKept)
  | ignored reason => exact .ignored reason
  | diagnosed diagnostic => exact .diagnosed diagnostic

theorem outcome (agrees : Agrees first second before after) : after.outcome = before.outcome := by
  cases agrees <;> rfl

theorem diagnostic? (agrees : Agrees first second before after) :
    after.diagnostic? = before.diagnostic? := by
  cases agrees <;> rfl

end Verdict.Agrees

/-- Results for one member, which agree unless the member has the given name. -/
structure MemberResult.AgreesApartFrom (name : String) (first second : List EnumFunction)
    (before after : MemberResult) : Prop where
  member : after.member = before.member
  claimed : after.verdict = .claimed ↔ before.verdict = .claimed
  verdict : before.member.name ≠ name → before.verdict.Agrees first second after.verdict

/-- What a resolution says of a member: its outcome, and the diagnostic that the outcome stands for. -/
structure MemberReport where
  outcome : MemberOutcome
  diagnostic : Option Diagnostic

def MemberResult.report (result : MemberResult) : MemberReport :=
  ⟨result.outcome, result.verdict.diagnostic?⟩

/-- Reports on one member, which are the same unless the member has the given name; even then the
constructor populates the member in both or in neither. -/
structure MemberReport.AgreesApartFrom (name : String) (before after : MemberReport) : Prop where
  member : after.outcome.member = before.outcome.member
  claimed : after.outcome.outcome = .constructor ↔ before.outcome.outcome = .constructor
  same : before.outcome.member ≠ name → after = before

/-- A resolution reports on the members in their order, behind what it says about all of them. -/
structure Resolution.Reports (resolution : Resolution) (general : List Diagnostic)
    (reports : List MemberReport) : Prop where
  outcomes : resolution.plan.outcomes = reports.map (·.outcome)
  diagnostics : resolution.diagnostics = general ++ reports.filterMap (·.diagnostic)
  /-- A diagnostic stands beside the outcome that names it, and beside no other. -/
  named : ∀ report ∈ reports, report.outcome.outcome.diagnosedId? = report.diagnostic.map (·.id)

/-- Two resolutions that differ at most in what becomes of the member of the given name. -/
structure Resolution.AgreesApartFrom (name : String) (first second : Resolution) : Prop where
  /-- The constructor is called in the same way, and populates the same members. -/
  constructor : second.plan.constructor = first.plan.constructor
  state : second.plan.state = first.plan.state
  reports : ∃ general before after, first.Reports general before ∧ second.Reports general after ∧
    List.Forall₂ (MemberReport.AgreesApartFrom name) before after
  /-- The same is assigned to the other members, where enum functions may have other names. -/
  assignments : List.Forall₂
    (MemberAssignment.KeptAs first.plan.enumFunctions second.plan.enumFunctions)
    (first.plan.assignments.filter (·.member != name)) (second.plan.assignments.filter (·.member != name))

namespace MemberResult.AgreesApartFrom

variable {name : String} {first second : List EnumFunction}

theorem report {before after : MemberResult} (agrees : AgreesApartFrom name first second before after) :
    before.report.AgreesApartFrom name after.report := by
  obtain ⟨sameMember, claimed, verdict⟩ := agrees
  refine ⟨congrArg (·.name) sameMember, ?_, fun differs => ?_⟩
  · rw [MemberResult.report, MemberResult.report, MemberResult.outcome, MemberResult.outcome,
      Verdict.outcome_constructor, Verdict.outcome_constructor, claimed]
  · have agrees := verdict differs
    rw [MemberResult.report, MemberResult.report, MemberResult.outcome, MemberResult.outcome, sameMember,
      agrees.outcome, agrees.diagnostic?]

/-- What is assigned to the other members agrees, one assignment after another. -/
theorem assignments {before after : List MemberResult}
    (agree : List.Forall₂ (AgreesApartFrom name first second) before after) :
    List.Forall₂ (MemberAssignment.KeptAs first second)
      ((before.filterMap (·.assignment?)).filter (·.member != name))
      ((after.filterMap (·.assignment?)).filter (·.member != name)) := by
  induction agree with
  | nil => exact .nil
  | @cons earlier later _ _ agrees _ inductionHypothesis =>
      obtain ⟨sameMember, claimed, verdict⟩ := agrees
      obtain ⟨member, earlierVerdict⟩ := earlier
      obtain ⟨_, laterVerdict⟩ := later
      cases sameMember
      rw [List.filterMap_cons, List.filterMap_cons]
      by_cases named : member.name = name
      · -- Whatever is assigned to the member of that name is left out.
        cases earlierVerdict <;> cases laterVerdict <;>
          simpa [MemberResult.assignment?, named] using inductionHypothesis
      · cases verdict named with
        | assigned value other agrees =>
            simp only [MemberResult.assignment?, List.filter_cons, bne_iff_ne, ne_eq, named,
              not_false_eq_true, ↓reduceIte]
            exact .cons ⟨rfl, rfl, agrees⟩ inductionHypothesis
        | claimed | ignored | diagnosed => exact inductionHypothesis

end MemberResult.AgreesApartFrom

namespace MappingTask

/-- The task with other directives. -/
def directedBy (task : MappingTask) (directives : Directives) : MappingTask :=
  { task with request := { task.request with directives := directives } }

variable (task : MappingTask)

/-- The same decision, each with the functions that are registered with it. -/
def SameDecision (before after : EnumRegistry × Verdict) : Prop :=
  before.2.Agrees before.1.functions after.1.functions after.2

/-- What is inferred for a member does not depend on the functions that there are. -/
theorem infer_same (left right : EnumRegistry) (member : Member) :
    SameDecision (task.infer left member) (task.infer right member) := by
  unfold infer
  cases task.sourceMember? member.name with
  | none => exact .diagnosed _
  | some sourceMember =>
      have same := task.convert?_same left right (task.read sourceMember) sourceMember.type member.type
        (task.relation sourceMember.type member.type) rfl
      dsimp only
      generalize task.convert? left _ _ _ _ = ofLeft at same ⊢
      generalize task.convert? right _ _ _ _ = ofRight at same ⊢
      cases same with
      | none => exact .diagnosed _
      | some agrees => exact .assigned _ _ agrees

/-- The constructor claims a member, and nothing else does. -/
theorem settle_claimed (claimed : List String) (registry : EnumRegistry) (member : Member) :
    (task.settle claimed registry member).2 = .claimed ↔ member.name ∈ claimed := by
  unfold settle
  split
  · next isClaimed => simpa using isClaimed
  · next unclaimed =>
      have absent : member.name ∉ claimed := by simpa using unclaimed
      exact ⟨fun isClaim => absurd isClaim (task.resolveMember_rule registry member).verdict.1,
        fun isClaimed => absurd isClaimed absent⟩

/-- Conversions look at no directive. -/
theorem buildArguments_directedBy (directives : Directives) (registry : EnumRegistry)
    (found : List MatchedParameter) :
    (task.directedBy directives).buildArguments registry found = task.buildArguments registry found := by
  induction found generalizing registry with
  | nil => rfl
  | cons matched rest inductionHypothesis =>
      simp only [buildArguments, inductionHypothesis]
      rfl

theorem registerPairs_directedBy (directives : Directives) (registry : EnumRegistry) (pairs : List MapEnum) :
    (task.directedBy directives).registerPairs registry pairs = task.registerPairs registry pairs := by
  induction pairs generalizing registry with
  | nil => rfl
  | cons pair rest inductionHypothesis =>
      simp only [registerPairs, inductionHypothesis]
      rfl

section

variable {name : String} {directives : Directives}
  (same : task.request.directives.apartFrom name = directives.apartFrom name)

include same

theorem ruled?_apart {member : Member} (differs : member.name ≠ name) :
    (task.directedBy directives).ruled? member = task.ruled? member := by
  have ofDirectives : (task.directedBy directives).request.directives = directives := rfl
  have sameMapped : (task.directedBy directives).mappedByUser = task.mappedByUser := rfl
  have sameCollected : (task.directedBy directives).collectedByUser? member = task.collectedByUser? member :=
    rfl
  unfold ruled?
  rw [ofDirectives, Directives.ignore?_apart same differs, Directives.mapMember?_apart same differs,
    Directives.collection?_apart same differs, sameMapped, sameCollected]

theorem settle_apart (claimed : List String) (left right : EnumRegistry) {member : Member}
    (differs : member.name ≠ name) :
    SameDecision (task.settle claimed left member)
      ((task.directedBy directives).settle claimed right member) := by
  unfold settle
  split
  · exact .claimed
  · rw [resolveMember_ruled, resolveMember_ruled, task.ruled?_apart same differs]
    cases ruled : task.ruled? member with
    | none => exact task.infer_same left right member
    | some verdict =>
        cases verdict with
        | claimed => exact .claimed
        | assigned value => exact .assigned value value ((ruled?_given ruled).agrees _ _)
        | ignored reason => exact .ignored reason
        | diagnosed diagnostic => exact .diagnosed diagnostic

/-- The other members are settled in the same way, whatever functions there are before them. -/
theorem resolveMembers_apart (claimed : List String) (left right : EnumRegistry) (members : List Member) :
    List.Forall₂
      (MemberResult.AgreesApartFrom name (task.resolveMembers claimed left members).1.functions
        ((task.directedBy directives).resolveMembers claimed right members).1.functions)
      (task.resolveMembers claimed left members).2
      ((task.directedBy directives).resolveMembers claimed right members).2 := by
  induction members generalizing left right with
  | nil => exact .nil
  | cons member rest inductionHypothesis =>
      rw [resolveMembers_cons, resolveMembers_cons]
      refine .cons ⟨rfl, ?sameClaim, fun differs => ?verdict⟩ (inductionHypothesis _ _)
      case sameClaim => exact (settle_claimed _ _ _ _).trans (settle_claimed _ _ _ _).symm
      case verdict =>
        exact (task.settle_apart same claimed left right differs).addFunctions
          (task.resolveMembers_typed claimed _ rest).1.kept
          ((task.directedBy directives).resolveMembers_typed claimed _ rest).1.kept

/-- The constructor is decided about in the same way, with the same functions. -/
theorem resolveConstructor_apart (registry : EnumRegistry) :
    (task.directedBy directives).resolveConstructor registry = task.resolveConstructor registry := by
  have sameChoice : (task.directedBy directives).request.directives.constructor =
      task.request.directives.constructor :=
    (congrArg Directives.constructor same).symm
  have sameArguments : (task.directedBy directives).buildArguments = task.buildArguments :=
    funext fun registry => funext fun found => task.buildArguments_directedBy directives registry found
  have sameOnly (constructor : Constructor) : (task.directedBy directives).onlyConstructor registry constructor =
      task.onlyConstructor registry constructor := by
    unfold onlyConstructor
    rw [sameArguments]
    rfl
  have sameInferred : (task.directedBy directives).inferConstructor registry =
      task.inferConstructor registry := by
    unfold inferConstructor
    simp only [sameOnly]
    rfl
  unfold resolveConstructor
  rw [sameChoice, sameInferred]
  rfl

theorem pairedRegistry_apart :
    (task.directedBy directives).pairedRegistry = task.pairedRegistry := by
  have samePairs : (task.directedBy directives).request.directives.enums = task.request.directives.enums :=
    (congrArg Directives.enums same).symm
  unfold pairedRegistry
  rw [samePairs, registerPairs_directedBy]

theorem constructorResult_apart :
    (task.directedBy directives).constructorResult = task.constructorResult := by
  rw [constructorResult, task.pairedRegistry_apart same, task.resolveConstructor_apart same]
  rfl

/-- Only the member that directives differ on can be resolved in another way. -/
theorem memberResults_apart : List.Forall₂
    (MemberResult.AgreesApartFrom name task.resolve.plan.enumFunctions
      (task.directedBy directives).resolve.plan.enumFunctions)
    task.memberResults (task.directedBy directives).memberResults := by
  have settled := task.resolveMembers_apart same (task.directedBy directives).constructorResult.claimed
    task.constructedRegistry (task.directedBy directives).constructedRegistry task.destinationStruct.members
  rw [task.constructorResult_apart same] at settled
  have sameMembers : (task.directedBy directives).destinationStruct.members =
      task.destinationStruct.members := rfl
  rw [memberResults, memberResults, task.constructorResult_apart same, sameMembers]
  have functions : (task.directedBy directives).resolve.plan.enumFunctions =
      ((task.directedBy directives).resolveMembers (task.directedBy directives).constructorResult.claimed
        (task.directedBy directives).constructedRegistry task.destinationStruct.members).1.functions := rfl
  rw [functions, task.constructorResult_apart same]
  exact settled

end

/-- A resolution reports on each member what was decided about it. -/
theorem resolve_reports : task.resolve.Reports
    (task.request.directives.enums.filterMap task.pairDiagnostic? ++ task.constructorResult.diagnostics)
    (task.memberResults.map (·.report)) := by
  refine ⟨?_, ?_, ?_⟩
  · rw [List.map_map]
    rfl
  · rw [task.resolve_diagnostics, List.filterMap_map]
    rfl
  · intro report listed
    obtain ⟨result, _, rfl⟩ := List.mem_map.mp listed
    exact result.verdict.outcome_diagnosedId?

theorem resolve_apart {name : String} {directives : Directives}
    (same : task.request.directives.apartFrom name = directives.apartFrom name) :
    task.resolve.AgreesApartFrom name (task.directedBy directives).resolve := by
  have sameConstructor := task.constructorResult_apart same
  have results := task.memberResults_apart same
  have reports := (task.directedBy directives).resolve_reports
  have samePairs : (task.directedBy directives).request.directives.enums = task.request.directives.enums :=
    (congrArg Directives.enums same).symm
  have sameDiagnostics : (task.directedBy directives).pairDiagnostic? = task.pairDiagnostic? := rfl
  rw [samePairs, sameDiagnostics, sameConstructor] at reports
  refine ⟨congrArg ConstructorResult.plan sameConstructor, congrArg ConstructorResult.state sameConstructor,
    ⟨_, _, _, task.resolve_reports, reports, ?_⟩, MemberResult.AgreesApartFrom.assignments results⟩
  rw [List.forall₂_map_left_iff, List.forall₂_map_right_iff]
  exact results.imp fun _ _ agrees => agrees.report

/-- The tasks for two requests for one method differ in their requests alone. -/
theorem IsFor.withRequest {schema : Schema} {left right : Request} {task other : MappingTask}
    (isFor : task.IsFor left schema) (alsoIsFor : other.IsFor right schema)
    (sameMethod : right.method = left.method) : other = { task with request := right } := by
  obtain ⟨id, others, params, found, isStruct⟩ := isFor.source
  obtain ⟨otherId, otherOthers, otherParams, otherFound, otherIsStruct⟩ := alsoIsFor.source
  obtain ⟨result, isResult, destinationFound, destinationIsStruct⟩ := isFor.destination
  obtain ⟨otherResult, otherIsResult, otherDestinationFound, otherDestinationIsStruct⟩ := alsoIsFor.destination
  have sameSchema := isFor.sameSchema
  have otherSchema := alsoIsFor.sameSchema
  have otherRequest := alsoIsFor.sameRequest
  rw [sameMethod, params] at otherParams
  rw [sameMethod, isResult] at otherIsResult
  obtain ⟨_, _, source, sourceStruct, destination, destinationStruct, sourceParam⟩ := task
  obtain ⟨_, _, otherSource, otherSourceStruct, otherDestination, otherDestinationStruct, otherParam⟩ := other
  dsimp only at *
  cases otherParams
  cases otherIsResult
  cases found.symm.trans otherFound
  cases destinationFound.symm.trans otherDestinationFound
  cases isStruct.symm.trans otherIsStruct
  cases destinationIsStruct.symm.trans otherDestinationIsStruct
  rw [sameSchema, otherSchema, otherRequest]

end MappingTask

namespace Request

/-- Requests that are the same apart from what their directives say of one member are resolved in the same way
apart from that member. -/
theorem resolve_apartFrom (schema : Schema) (left right : Request) (name : String)
    (same : left.apartFrom name = right.apartFrom name) (first second : Resolution)
    (resolved : left.resolve schema = .ok first) (alsoResolved : right.resolve schema = .ok second) :
    first.AgreesApartFrom name second := by
  obtain ⟨task, accepted, rfl⟩ := (left.resolve_ok schema first).mp resolved
  obtain ⟨other, alsoAccepted, rfl⟩ := (right.resolve_ok schema second).mp alsoResolved
  have isFor := left.toTask_ok schema task accepted
  obtain ⟨mapper, method, directives, delegates⟩ := left
  obtain ⟨_, _, others, _⟩ := right
  obtain ⟨rfl, rfl, sameOthers, rfl⟩ := Request.mk.inj same
  have sameApart : task.request.directives.apartFrom name = others.apartFrom name := by
    rw [isFor.sameRequest]
    exact sameOthers
  have agrees := task.resolve_apart sameApart
  rw [MappingTask.directedBy, isFor.sameRequest] at agrees
  rw [isFor.withRequest (toTask_ok _ schema other alsoAccepted) rfl]
  exact agrees

end Request

/-- Responses with codes that are shown as enums of two names with the same words. -/
def SchemaDraft.responseSchema : Schema where
  types :=
    [⟨⟨0⟩, "Code", .enum ["Ok", "Gone"]⟩,
      ⟨⟨1⟩, "HTTPStatus", .enum ["Ok", "Gone"]⟩,
      ⟨⟨2⟩, "HttpStatus", .enum ["Gone", "Ok"]⟩,
      ⟨⟨3⟩, "Response", .struct ⟨none, layOut ⟨3⟩
        [.accessible "status" (.named ⟨0⟩) .field, .accessible "previous" (.named ⟨0⟩) .field] [],
        [.literal]⟩⟩,
      ⟨⟨4⟩, "ResponseDto", .struct ⟨none, layOut ⟨4⟩
        [.accessible "status" (.named ⟨1⟩) .field, .accessible "previous" (.named ⟨2⟩) .field,
          .accessible "size" (.scalar .u64) .field] [],
        [.literal]⟩⟩]

/-- Maps responses to what is shown of them. -/
def responseRequest (directives : Directives) : Request where
  mapper := "ResponseMapper"
  method := ⟨"to_dto", [⟨"response", .named ⟨3⟩⟩], .named ⟨4⟩, ⟨3, 4⟩⟩
  directives := directives
  delegates := []

/-- A block for the status is refused. What else is shown stays, and its function gets the name that is free. -/
theorem responseRequest_apartFrom :
    ∃ first second,
      (responseRequest .none).resolve SchemaDraft.responseSchema = .ok first ∧
      (responseRequest ⟨[⟨"status", .closure ⟨["r"], .block, ⟨6, 30⟩⟩, ⟨6, 8⟩⟩], [], [], none, []⟩).resolve
        SchemaDraft.responseSchema = .ok second ∧
      first.plan.enumFunctions.map (fun function => (function.key.destination, function.name)) =
        [(⟨1⟩, "map_to_http_status"), (⟨2⟩, "map_code_to_http_status")] ∧
      second.plan.enumFunctions.map (fun function => (function.key.destination, function.name)) =
        [(⟨2⟩, "map_to_http_status")] ∧
      first.diagnostics.map (·.id) = [.missingPropertyMapping] ∧
      second.diagnostics.map (·.id) = [.lambdaBlockNotSupported, .missingPropertyMapping] ∧
      first.AgreesApartFrom "status" second :=
  ⟨_, _, rfl, rfl, by decide +kernel, by decide +kernel, by decide +kernel, by decide +kernel,
    Request.resolve_apartFrom SchemaDraft.responseSchema (responseRequest .none) (responseRequest
      ⟨[⟨"status", .closure ⟨["r"], .block, ⟨6, 30⟩⟩, ⟨6, 8⟩⟩], [], [], none, []⟩) "status" rfl _ _ rfl rfl⟩

end ObjectMapping
