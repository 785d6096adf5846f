/-
This file proves that nothing is lost when further mappers are included: no diagnostic is added, and what
was assigned keeps its value, unless the constructor comes to populate it.
-/

import ObjectMapping.Proofs.Resolution.Agreement

namespace ObjectMapping

/-- The request with further mappers behind those that it includes. -/
def Request.including (request : Request) (further : List IncludedMapper) : Request :=
  { request with delegates := request.delegates ++ further }

/-- What further mappers make of the relation of two types: a delegation, where there was none. -/
inductive TypeRelation.Extends : TypeRelation → TypeRelation → Prop
  | kept (relation : TypeRelation) : Extends relation relation
  | found (delegation : Delegation) : Extends .incompatible (.delegated delegation)

namespace TypeRelation

/-- What could be converted still can be. -/
theorem Extends.isCompatible {before after : TypeRelation} (extended : before.Extends after)
    (compatible : before.isCompatible = true) : after.isCompatible = true := by
  cases extended with
  | kept => exact compatible
  | found => rfl

section

variable (schema : Schema) (mappers further : List IncludedMapper) (arity : Nat)
  (source destination : TypeRef)

theorem findDirect?_append (perElement : Bool) :
    Delegation.findDirect? (mappers ++ further) perElement source destination arity =
      (Delegation.findDirect? mappers perElement source destination arity).or
        (Delegation.findDirect? further perElement source destination arity) :=
  List.findSome?_append

/-- Further mappers are asked last. -/
theorem find?_append :
    Delegation.find? (mappers ++ further) source destination arity =
      (Delegation.find? mappers source destination arity).or
        (Delegation.find? further source destination arity) := by
  unfold Delegation.find?
  split
  · exact findDirect?_append mappers further arity _ _ true
  · exact findDirect?_append mappers further arity _ _ false
  · rfl

theorem ofDelegates_extends :
    (ofDelegates mappers arity source destination).Extends
      (ofDelegates (mappers ++ further) arity source destination) := by
  rw [ofDelegates, ofDelegates, find?_append]
  cases Delegation.find? mappers source destination arity with
  | some delegation => exact .kept _
  | none =>
      cases Delegation.find? further source destination arity with
      | some delegation => exact .found delegation
      | none => exact .kept _

theorem ofCollections_extends :
    (ofCollections schema mappers arity source destination).Extends
      (ofCollections schema (mappers ++ further) arity source destination) := by
  unfold ofCollections
  split
  · next sourceElement target destinationElement =>
      cases ofElements schema sourceElement destinationElement with
      | ok relation => exact .kept _
      | error reason =>
          cases reason with
          | some mismatch => exact .kept _
          | none => exact ofDelegates_extends mappers further arity _ _
  · exact ofDelegates_extends mappers further arity source destination

/-- Two types keep their relation unless there was none. -/
theorem classify_extends :
    (classify schema mappers arity source destination).Extends
      (classify schema (mappers ++ further) arity source destination) := by
  unfold classify
  split
  · exact .kept _
  · split
    · exact .kept _
    · cases ofEnums? schema source destination with
      | some answer => cases answer <;> exact .kept _
      | none =>
          cases implicit? source destination with
          | some conversion => exact .kept _
          | none => exact ofCollections_extends schema mappers further arity source destination

end

end TypeRelation

namespace MappingTask

/-- The task with further mappers behind those that its request includes. -/
def including (task : MappingTask) (further : List IncludedMapper) : MappingTask :=
  { task with request := task.request.including further }

variable (task : MappingTask) (further : List IncludedMapper)

theorem relation_extends (source destination : TypeRef) :
    (task.relation source destination).Extends ((task.including further).relation source destination) :=
  TypeRelation.classify_extends task.schema task.request.delegates further task.params.length source
    destination

end MappingTask

/-- What becomes of a decision about a member when further mappers are included. -/
inductive Verdict.KeptAs (first second : List EnumFunction) : Verdict → Verdict → Prop
  | claimed (before : Verdict) : KeptAs first second before .claimed
  | assigned (value other : Expr) (agrees : value.Agrees first second other) :
      KeptAs first second (.assigned value) (.assigned other)
  | ignored (reason : IgnoreReason) : KeptAs first second (.ignored reason) (.ignored reason)
  | diagnosed (diagnostic : Diagnostic) : KeptAs first second (.diagnosed diagnostic) (.diagnosed diagnostic)
  | resolved (diagnostic : Diagnostic) (value : Expr) :
      KeptAs first second (.diagnosed diagnostic) (.assigned value)

namespace Verdict.KeptAs

variable {first second : List EnumFunction} {before after : Verdict}

theorem addFunctions {more others : List EnumFunction} (kept : first ⊆ more) (alsoKept : second ⊆ others)
    (verdict : KeptAs first second before after) : KeptAs more others before after := by
  cases verdict with
  | claimed => exact .claimed before
  | assigned value other agrees => exact .assigned value other (agrees.addFunctions kept alsoKept)
  | ignored reason => exact .ignored reason
  | diagnosed diagnostic => exact .diagnosed diagnostic
  | resolved diagnostic value => exact .resolved diagnostic value

/-- What is reported was reported before. -/
theorem diagnostic? (verdict : KeptAs first second before after) :
    after.diagnostic? = none ∨ after.diagnostic? = before.diagnostic? := by
  cases verdict with
  | claimed | assigned | ignored | resolved => exact .inl rfl
  | diagnosed => exact .inr rfl

end Verdict.KeptAs

/-- What becomes of the result for a member, which is still about that member. -/
structure MemberResult.KeptAs (first second : List EnumFunction) (before after : MemberResult) : Prop where
  member : after.member = before.member
  verdict : before.verdict.KeptAs first second after.verdict

/-- What becomes of the outcome for a member: the constructor may come to populate it, or it may be
assigned if it was diagnosed. -/
def MemberOutcome.KeptAs (before after : MemberOutcome) : Prop :=
  after.member = before.member ∧
    (after.outcome = .constructor ∨ after.outcome = before.outcome ∨
      before.outcome.isDiagnosed = true ∧ after.outcome = .assigned)

/-- What becomes of an assignment that is kept: its value may call enum functions by other names. -/
structure MemberAssignment.KeptAs (first second : List EnumFunction) (before after : MemberAssignment) :
    Prop where
  member : after.member = before.member
  kind : after.kind = before.kind
  value : before.expr.Agrees first second after.expr

namespace MemberResult.KeptAs

variable {first second : List EnumFunction} {before after : MemberResult}

theorem outcome (kept : KeptAs first second before after) : before.outcome.KeptAs after.outcome := by
  obtain ⟨sameMember, verdict⟩ := kept
  refine ⟨congrArg (·.name) sameMember, ?_⟩
  obtain ⟨_, before⟩ := before
  obtain ⟨_, after⟩ := after
  cases verdict with
  | claimed => exact .inl rfl
  | assigned | ignored | diagnosed => exact .inr (.inl rfl)
  | resolved => exact .inr (.inr ⟨rfl, rfl⟩)

/-- What was assigned still is, unless the constructor populates the member. -/
theorem assignment (kept : KeptAs first second before after) {assignment : MemberAssignment}
    (assigned : before.assignment? = some assignment) :
    after.outcome = ⟨assignment.member, .constructor⟩ ∨
      ∃ other, after.assignment? = some other ∧ assignment.KeptAs first second other := by
  obtain ⟨member, before⟩ := before
  obtain ⟨_, after⟩ := after
  obtain ⟨rfl, verdict⟩ := kept
  cases verdict with
  | claimed =>
      refine .inl ?_
      cases before <;> cases assigned
      rfl
  | assigned value other agrees =>
      cases assigned
      exact .inr ⟨_, rfl, rfl, rfl, agrees⟩
  | ignored | diagnosed | resolved => cases assigned

end MemberResult.KeptAs

namespace MappingTask

variable (task : MappingTask) (further : List IncludedMapper)

/-- A decision about a member is kept, each with the functions that are registered with it. -/
def KeptDecision (before after : EnumRegistry × Verdict) : Prop :=
  before.2.KeptAs before.1.functions after.1.functions after.2

theorem infer_kept (left right : EnumRegistry) (member : Member) :
    KeptDecision (task.infer left member) ((task.including further).infer right member) := by
  have sameMember : (task.including further).sourceMember? member.name = task.sourceMember? member.name := rfl
  unfold infer
  rw [sameMember]
  cases task.sourceMember? member.name with
  | none => exact .diagnosed _
  | some sourceMember =>
      have sameConversion (relation : TypeRelation) : (task.including further).convert? right
          ((task.including further).read sourceMember) sourceMember.type member.type relation =
            task.convert? right (task.read sourceMember) sourceMember.type member.type relation := rfl
      have extended := task.relation_extends further sourceMember.type member.type
      dsimp only
      rw [sameConversion]
      generalize task.relation sourceMember.type member.type = before at extended ⊢
      generalize (task.including further).relation sourceMember.type member.type = after at extended ⊢
      cases extended with
      | kept =>
          have same := task.convert?_same left right (task.read sourceMember) sourceMember.type
            member.type before rfl
          generalize task.convert? left _ _ _ _ = ofLeft at same ⊢
          generalize task.convert? right _ _ _ _ = ofRight at same ⊢
          cases same with
          | none => exact .diagnosed _
          | some agrees => exact .assigned _ _ agrees
      | found delegation =>
          cases task.convert? right (task.read sourceMember) sourceMember.type member.type
            (.delegated delegation) with
          | none => exact .diagnosed _
          | some converted => exact .resolved _ _

theorem settle_kept {claimed more : List String} (stillClaimed : claimed ⊆ more)
    (left right : EnumRegistry) (member : Member) :
    KeptDecision (task.settle claimed left member) ((task.including further).settle more right member) := by
  have sameRule : (task.including further).ruled? member = task.ruled? member := rfl
  unfold settle
  by_cases isClaimed : member.name ∈ more
  · rw [if_pos (List.contains_iff_mem.mpr isClaimed)]
    exact .claimed _
  · have unclaimed : member.name ∉ claimed := fun before => isClaimed (stillClaimed before)
    rw [if_neg (mt List.contains_iff_mem.mp isClaimed), if_neg (mt List.contains_iff_mem.mp unclaimed),
      resolveMember_ruled, resolveMember_ruled, sameRule]
    cases ruled : task.ruled? member with
    | none => exact task.infer_kept further left right member
    | some verdict =>
        cases verdict with
        | claimed => exact .claimed _
        | assigned value => exact .assigned value value ((ruled?_given ruled).agrees _ _)
        | ignored reason => exact .ignored reason
        | diagnosed diagnostic => exact .diagnosed diagnostic

/-- All members keep what was decided about them, whatever functions there are before them. -/
theorem resolveMembers_kept {claimed more : List String} (stillClaimed : claimed ⊆ more)
    (left right : EnumRegistry) (members : List Member) :
    List.Forall₂
      (MemberResult.KeptAs (task.resolveMembers claimed left members).1.functions
        ((task.including further).resolveMembers more right members).1.functions)
      (task.resolveMembers claimed left members).2
      ((task.including further).resolveMembers more right members).2 := by
  induction members generalizing left right with
  | nil => exact .nil
  | cons member rest inductionHypothesis =>
      have settled := task.settle_kept further stillClaimed left right member
      rw [resolveMembers_cons, resolveMembers_cons]
      refine .cons ⟨rfl, settled.addFunctions ?left ?right⟩ (inductionHypothesis _ _)
      case left => exact (task.resolveMembers_typed claimed _ rest).1.kept
      case right => exact ((task.including further).resolveMembers_typed more _ rest).1.kept

end MappingTask

/-- A decision about the constructor loses nothing to another. -/
structure ConstructorResult.KeptAs (before after : ConstructorResult) : Prop where
  claimed : before.claimed ⊆ after.claimed
  diagnostics : after.diagnostics.Sublist before.diagnostics

theorem ConstructorResult.KeptAs.refl (result : ConstructorResult) : result.KeptAs result :=
  ⟨fun _ isClaimed => isClaimed, .refl result.diagnostics⟩

namespace MappingTask

variable (task : MappingTask) (further : List IncludedMapper)

/-- A parameter that could be fed still can be. -/
theorem feed?_kept (parameter : Parameter) (fed : (task.feed? parameter).isSome = true) :
    ((task.including further).feed? parameter).isSome = true := by
  obtain ⟨found, fed⟩ := Option.isSome_iff_exists.mp fed
  obtain ⟨member, matched, fed⟩ := Option.bind_eq_some_iff.mp fed
  have sameMember : ((task.including further).sourceStruct.memberIgnoringCase? parameter.name).filter
      (·.readable) = some member := matched
  dsimp only at fed
  split at fed
  · next compatible =>
      have stillCompatible := (task.relation_extends further member.type parameter.type).isCompatible compatible
      simp [feed?, sameMember, stillCompatible]
  · cases fed

theorem onlyConstructor_kept (left right : EnumRegistry) (constructor : Constructor) :
    (task.onlyConstructor left constructor).2.KeptAs
      ((task.including further).onlyConstructor right constructor).2 := by
  unfold onlyConstructor
  cases fed : constructor.parameters.mapM task.feed? with
  | none =>
      cases constructor.parameters.mapM (task.including further).feed? with
      | none => exact .refl _
      | some found => exact ⟨List.nil_subset _, List.nil_sublist _⟩
  | some found =>
      have allFed := (mapM_isSome _ _).mp (Option.isSome_of_mem fed)
      have stillFed : (constructor.parameters.mapM (task.including further).feed?).isSome = true :=
        (mapM_isSome _ _).mpr fun parameter present => task.feed?_kept further parameter (allFed parameter present)
      obtain ⟨others, stillFed⟩ := Option.isSome_iff_exists.mp stillFed
      rw [stillFed]
      exact ⟨fun _ isClaimed => isClaimed, .refl []⟩

/-- Only a constructor that could not be fed is decided about anew. -/
theorem resolveConstructor_kept (left right : EnumRegistry) :
    (task.resolveConstructor left).2.KeptAs ((task.including further).resolveConstructor right).2 := by
  have sameChoice : (task.including further).request.directives.constructor =
    task.request.directives.constructor := rfl
  have sameConstructors : (task.including further).destinationStruct.constructors =
    task.destinationStruct.constructors := rfl
  unfold resolveConstructor
  rw [sameChoice]
  cases task.request.directives.constructor with
  | some choice => cases choice <;> exact .refl _
  | none =>
      dsimp only
      unfold inferConstructor
      rw [sameConstructors]
      match task.destinationStruct.constructors with
      | [] => exact .refl _
      | [constructor] =>
          dsimp only
          split
          · exact .refl _
          · exact task.onlyConstructor_kept further left right constructor
      | first :: second :: others => exact .refl _

theorem memberResults_kept : List.Forall₂
    (MemberResult.KeptAs task.resolve.plan.enumFunctions (task.including further).resolve.plan.enumFunctions)
    task.memberResults (task.including further).memberResults :=
  task.resolveMembers_kept further (task.resolveConstructor_kept further _ _).claimed _ _ _

end MappingTask

/-- A resolution loses nothing to another. -/
structure Resolution.KeptBy (first second : Resolution) : Prop where
  /-- Nothing is reported that was not reported before. -/
  diagnostics : second.diagnostics.Sublist first.diagnostics
  outcomes : List.Forall₂ MemberOutcome.KeptAs first.plan.outcomes second.plan.outcomes
  /-- What was assigned still is, unless the constructor populates the member. -/
  assignments : ∀ assignment ∈ first.plan.assignments,
    ⟨assignment.member, .constructor⟩ ∈ second.plan.outcomes ∨
      ∃ other ∈ second.plan.assignments,
        assignment.KeptAs first.plan.enumFunctions second.plan.enumFunctions other

/-- The results of members report nothing new. -/
theorem MemberResult.diagnostics_sublist {first second : List EnumFunction} {before after : List MemberResult}
    (kept : List.Forall₂ (MemberResult.KeptAs first second) before after) :
    (after.filterMap (·.verdict.diagnostic?)).Sublist (before.filterMap (·.verdict.diagnostic?)) := by
  induction kept with
  | nil => exact .slnil
  | @cons earlier later _ _ kept _ inductionHypothesis =>
      rw [List.filterMap_cons, List.filterMap_cons]
      cases kept.verdict.diagnostic? with
      | inl silent =>
          rw [silent]
          cases earlier.verdict.diagnostic? with
          | none => exact inductionHypothesis
          | some diagnostic => exact inductionHypothesis.cons diagnostic
      | inr same =>
          rw [same]
          cases earlier.verdict.diagnostic? with
          | none => exact inductionHypothesis
          | some diagnostic => exact inductionHypothesis.cons_cons diagnostic

/-- Each of the results is kept by another. -/
theorem MemberResult.kept_mem {first second : List EnumFunction} {before after : List MemberResult}
    (kept : List.Forall₂ (MemberResult.KeptAs first second) before after) {result : MemberResult}
    (present : result ∈ before) : ∃ other ∈ after, result.KeptAs first second other := by
  induction kept with
  | nil => cases present
  | cons kept _ inductionHypothesis =>
      obtain rfl | inRest := List.mem_cons.mp present
      · exact ⟨_, List.mem_cons_self, kept⟩
      · obtain ⟨other, listed, keptInRest⟩ := inductionHypothesis inRest
        exact ⟨other, List.mem_cons_of_mem _ listed, keptInRest⟩

theorem MappingTask.resolve_kept (task : MappingTask) (further : List IncludedMapper) :
    task.resolve.KeptBy (task.including further).resolve := by
  have results := task.memberResults_kept further
  have constructors := task.resolveConstructor_kept further task.pairedRegistry
    (task.including further).pairedRegistry
  refine ⟨?diagnostics, ?outcomes, ?assignments⟩
  case diagnostics =>
    rw [resolve_diagnostics, resolve_diagnostics]
    exact ((List.Sublist.refl _).append constructors.diagnostics).append
      (MemberResult.diagnostics_sublist results)
  case outcomes =>
    change List.Forall₂ _ (task.memberResults.map _) ((task.including further).memberResults.map _)
    rw [List.forall₂_map_left_iff, List.forall₂_map_right_iff]
    exact results.imp fun _ _ kept => kept.outcome
  case assignments =>
    intro assignment present
    obtain ⟨result, listed, assigned⟩ := List.mem_filterMap.mp present
    obtain ⟨other, alsoListed, kept⟩ := MemberResult.kept_mem results listed
    obtain claimed | ⟨stillAssigned, assigns, keptAssignment⟩ := kept.assignment assigned
    · refine .inl ?_
      rw [← claimed]
      exact List.mem_map_of_mem alsoListed
    · exact .inr ⟨stillAssigned, List.mem_filterMap.mpr ⟨other, alsoListed, assigns⟩, keptAssignment⟩

namespace Request

/-- A request is accepted with further mappers if it is without them. -/
theorem toTask_including (schema : Schema) (request : Request) (further : List IncludedMapper)
    (task : MappingTask) (accepted : request.toTask schema = .ok task) :
    (request.including further).toTask schema = .ok (task.including further) := by
  simp only [toTask, bind_ok] at accepted ⊢
  obtain ⟨source, sourceFound, sourceType, sourceExpected, id, destinationFound, destinationType,
    destinationExpected, checked⟩ := accepted
  refine ⟨source, sourceFound, sourceType, sourceExpected, id, destinationFound, destinationType,
    destinationExpected, ?_⟩
  have sameDirectives : (request.including further).directives = request.directives := rfl
  have sameFaults : (request.including further).enumFault? schema = request.enumFault? schema := rfl
  rw [sameDirectives, sameFaults]
  split at checked
  · cases checked
  · split at checked
    · cases checked
    · cases checked
      rfl

/-- Including further mappers loses nothing: no diagnostic is added, and a member that was assigned still is,
with the same value, or is populated by the constructor. -/
theorem resolve_including (schema : Schema) (request : Request) (further : List IncludedMapper)
    (first : Resolution) (resolved : request.resolve schema = .ok first) :
    ∃ second, (request.including further).resolve schema = .ok second ∧ first.KeptBy second := by
  obtain ⟨task, accepted, rfl⟩ := (request.resolve_ok schema first).mp resolved
  exact ⟨_, ((request.including further).resolve_ok schema _).mpr
    ⟨_, request.toTask_including schema further task accepted, rfl⟩, task.resolve_kept further⟩

end Request

/-- Once customers can be handed over, the constructor of an invoice takes what it can, and nothing is
reported any more. -/
theorem invoiceRequest_including :
    ∃ first second, invoiceRequest.resolve SchemaDraft.invoiceSchema = .ok first ∧
      (invoiceRequest.including [customerMapper]).resolve SchemaDraft.invoiceSchema = .ok second ∧
      first.plan.outcomes = [⟨"status", .assigned⟩, ⟨"previous", .assigned⟩,
        ⟨"customer", .diagnosed .typeMismatchInDirectMapping⟩] ∧
      second.plan.outcomes = [⟨"status", .assigned⟩, ⟨"previous", .constructor⟩,
        ⟨"customer", .constructor⟩] ∧
      second.diagnostics = [] ∧ first.KeptBy second := by
  obtain ⟨second, resolved, kept⟩ := Request.resolve_including SchemaDraft.invoiceSchema invoiceRequest
    [customerMapper] _ rfl
  cases resolved
  exact ⟨_, _, rfl, rfl, rfl, rfl, rfl, kept⟩

end ObjectMapping
