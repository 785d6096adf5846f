/-
This file proves that a resolution accounts for every member of the destination: each has one outcome, what
is assigned and what is claimed agrees with the outcomes, and every diagnostic has its place.
-/

import ObjectMapping.Proofs.Resolution.Rules

namespace ObjectMapping

/-- The diagnostic that an outcome stands for. -/
def Outcome.diagnosedId? : Outcome → Option DiagnosticId
  | .diagnosed id => some id
  | _ => none

namespace Verdict

/-- The outcome of a verdict names the diagnostic of that verdict. -/
theorem outcome_diagnosedId? (verdict : Verdict) :
    verdict.outcome.diagnosedId? = verdict.diagnostic?.map (·.id) := by
  cases verdict <;> rfl

theorem outcome_constructor (verdict : Verdict) :
    verdict.outcome = .constructor ↔ verdict = .claimed := by
  cases verdict <;> simp [outcome]

theorem outcome_ignored (verdict : Verdict) (reason : IgnoreReason) :
    verdict.outcome = .ignored reason ↔ verdict = .ignored reason := by
  cases verdict <;> simp [outcome]

/-- Whether a value was found or its lack is reported. -/
def answers : Verdict → Bool
  | .assigned _ | .diagnosed _ => true
  | .claimed | .ignored _ => false

theorem answers_only (verdict : Verdict) (answered : verdict.answers = true) {named : Prop} :
    verdict ≠ .claimed ∧ (verdict = .ignored .explicit → named) := by
  cases verdict with
  | assigned | diagnosed => simp
  | claimed | ignored => cases answered

end Verdict

namespace MappingTask

variable (task : MappingTask)

/-- A pair of enums is diagnosed when the destination lacks variants of the source. -/
def pairDiagnostic? (pair : MapEnum) : Option Diagnostic :=
  match task.schema.variants? pair.source, task.schema.variants? pair.destination with
  | some sourceVariants, some destinationVariants =>
      match TypeRelation.missingVariants sourceVariants destinationVariants with
      | [] => none
      | missing =>
          some (.error pair.location (.enumPairMismatch (task.schema.identOf pair.source)
            (task.schema.identOf pair.destination) missing))
  | _, _ => none

theorem registerPair_diagnostic (registry : EnumRegistry) (pair : MapEnum) :
    (task.registerPair registry pair).2 = task.pairDiagnostic? pair := by
  unfold registerPair pairDiagnostic?
  cases task.schema.variants? pair.source with
  | none => rfl
  | some sourceVariants =>
      cases task.schema.variants? pair.destination with
      | none => rfl
      | some destinationVariants =>
          cases missing : TypeRelation.missingVariants sourceVariants destinationVariants <;>
            simp [missing]

/-- Each enum pair adds its own diagnostic, in the order of the directives. -/
theorem registerPairs_diagnostics (registry : EnumRegistry) (pairs : List MapEnum) :
    (task.registerPairs registry pairs).2 = pairs.filterMap task.pairDiagnostic? := by
  induction pairs generalizing registry with
  | nil => rfl
  | cons pair rest inductionHypothesis =>
      simp only [registerPairs, inductionHypothesis, registerPair_diagnostic]
      cases found : task.pairDiagnostic? pair <;> simp [found]

/-- Enum pairs are diagnosed first, then the constructor, then the members. -/
theorem resolve_diagnostics : task.resolve.diagnostics =
    task.request.directives.enums.filterMap task.pairDiagnostic? ++
      task.constructorResult.diagnostics ++ task.memberResults.filterMap (·.verdict.diagnostic?) := by
  rw [← task.registerPairs_diagnostics .empty]
  rfl

/-- The claimed members differ and are members of the destination. -/
theorem claims_members (constructor : Constructor) :
    (task.claims constructor).Nodup ∧
      ∀ name ∈ task.claims constructor, ∃ member ∈ task.destinationStruct.members,
        member.name = name := by
  unfold claims
  refine List.foldlRecOn (motive := fun (claimed : List String) => claimed.Nodup ∧
    ∀ name ∈ claimed, ∃ member ∈ task.destinationStruct.members, member.name = name) _ _ ?_ ?_
  · simp
  · intro claimed ⟨distinct, known⟩ parameter _
    cases found : task.destinationStruct.memberIgnoringCase? parameter.name with
    | none => exact ⟨distinct, known⟩
    | some member =>
        have present : member ∈ task.destinationStruct.members :=
          (StructType.mem_of_memberIgnoringCase? found).1
        by_cases repeated : claimed.contains member.name
        · simp only [repeated, ↓reduceIte]
          exact ⟨distinct, known⟩
        · have fresh : member.name ∉ claimed := by simpa using repeated
          simp only [repeated, Bool.false_eq_true, ↓reduceIte]
          constructor
          · exact distinct.append (List.nodup_singleton _) (by simpa using fresh)
          · intro name within
            rcases List.mem_append.mp within with before | new
            · exact known name before
            · exact ⟨member, present, (List.mem_singleton.mp new).symm⟩

/-- Arguments of the user leave the claims of the constructor as they are, whether they fit or not. -/
theorem explicitConstructor_claimed (constructor : Constructor) (arguments : List Transform) :
    (task.explicitConstructor constructor arguments).claimed = task.claims constructor := by
  unfold explicitConstructor
  dsimp only
  split
  · rfl
  · rfl

/-- Nothing is claimed except by the parameters of a constructor. -/
theorem ConstructorRule.claimed {registry : EnumRegistry}
    {decision : EnumRegistry × ConstructorResult} (rule : task.ConstructorRule registry decision) :
    decision.2.claimed = [] ∨ ∃ constructor, decision.2.claimed = task.claims constructor := by
  cases rule with
  | noConstructor | onlyParameterless | onlyUnfed | several | askedEmpty | askedEmptyMissing
  | askedArgumentsMissing => exact .inl rfl
  | onlyFed constructor => exact .inr ⟨constructor, rfl⟩
  | askedArguments arguments location constructor =>
      exact .inr ⟨constructor, task.explicitConstructor_claimed constructor arguments⟩

/-- The constructor call of a plan claims what the constructor was found to claim. -/
theorem ConstructorRule.plan {registry : EnumRegistry}
    {decision : EnumRegistry × ConstructorResult} (rule : task.ConstructorRule registry decision)
    (plan : ConstructorPlan) (found : decision.2.plan = some plan) :
    plan.claimed = decision.2.claimed := by
  cases rule with
  | noConstructor | onlyUnfed | several | askedEmptyMissing | askedArgumentsMissing => cases found
  | onlyParameterless | askedEmpty | onlyFed =>
      cases found
      rfl
  | askedArguments arguments location constructor =>
      rw [task.explicitConstructor_claimed]
      exact (explicitConstructor_isWritten found).claimed

/-- The constructor claims members of the destination only. -/
theorem constructorResult_claimed (name : String)
    (claimed : name ∈ task.constructorResult.claimed) :
    ∃ member ∈ task.destinationStruct.members, member.name = name := by
  rcases (task.resolveConstructor_rule task.pairedRegistry).claimed with nothing | ⟨constructor, same⟩
  · rw [constructorResult, nothing] at claimed
    cases claimed
  · rw [constructorResult, same] at claimed
    exact (task.claims_members constructor).2 name claimed

/-- The user's value for a member is taken or refused. -/
theorem mappedByUser_answers (directive : MapMember) : (task.mappedByUser directive).answers = true := by
  obtain ⟨text, decided⟩ | decided := task.mappedByUser_cases directive
  · rw [decided]
    rfl
  · rw [decided]
    rfl

/-- A collection directive that decides takes the user's collection or refuses it. -/
theorem CollectRule.answers {member : Member} {directive : MapCollection} {verdict : Verdict}
    (rule : task.CollectRule member directive (some verdict)) : verdict.answers = true := by
  cases rule <;> rfl

/-- Inference finds a value or reports why there is none. -/
theorem InferRule.answers {registry : EnumRegistry} {member : Member} {decision : EnumRegistry × Verdict}
    (rule : task.InferRule registry member decision) : decision.2.answers = true := by
  cases rule <;> rfl

/-- The rules for a member never claim it, and they leave it out on the user's word only where a
directive names it and it is not required. -/
theorem MemberRule.verdict {registry : EnumRegistry} {member : Member}
    {decision : EnumRegistry × Verdict} (rule : task.MemberRule registry member decision) :
    decision.2 ≠ .claimed ∧
      (decision.2 = .ignored .explicit →
        (∃ directive ∈ task.request.directives.ignores, directive.member = member.name) ∧
          member.required = false) := by
  cases rule with
  | system | notSettable => simp
  | ignored directive found =>
      have named : directive.member = member.name := by simpa using List.find?_some found
      have listed : directive ∈ task.request.directives.ignores := List.mem_of_find?_eq_some found
      obtain ⟨_, decided⟩ | ⟨optional, decided⟩ := ignoredByUser_cases member directive
      · simp [decided]
      · exact ⟨by simp [decided], fun _ => ⟨⟨directive, listed, named⟩, optional⟩⟩
  | mapped directive _ _ => exact Verdict.answers_only _ (task.mappedByUser_answers directive)
  | collected directive verdict _ _ _ decided =>
      exact Verdict.answers_only _ ((collectedByUser?_rule decided).answers)
  | inferred _ _ _ => exact Verdict.answers_only _ ((task.infer_rule registry member).answers)

/-- A member is settled as a claim or by one of the rules. -/
theorem settle_rule (claimed : List String) (registry : EnumRegistry) (member : Member) :
    (member.name ∈ claimed ∧ (task.settle claimed registry member).2 = .claimed) ∨
      (member.name ∉ claimed ∧ ∃ before after,
        task.MemberRule before member (after, (task.settle claimed registry member).2)) := by
  unfold settle
  by_cases within : claimed.contains member.name = true
  · rw [if_pos within]
    exact .inl ⟨List.contains_iff_mem.mp within, rfl⟩
  · rw [if_neg within]
    have absent : member.name ∉ claimed := fun inside => within (List.contains_iff_mem.mpr inside)
    exact .inr ⟨absent, registry, _, task.resolveMember_rule registry member⟩

/-- Each result is either a claim or what one of the rules decided. -/
theorem resolveMembers_rules (claimed : List String) (registry : EnumRegistry)
    (members : List Member) (result : MemberResult)
    (present : result ∈ (task.resolveMembers claimed registry members).2) :
    (result.member.name ∈ claimed ∧ result.verdict = .claimed) ∨
      (result.member.name ∉ claimed ∧ ∃ before after,
        task.MemberRule before result.member (after, result.verdict)) := by
  induction members generalizing registry with
  | nil => cases present
  | cons member rest inductionHypothesis =>
      rw [resolveMembers_cons, List.mem_cons] at present
      rcases present with same | later
      · rw [same]
        exact task.settle_rule claimed registry member
      · exact inductionHypothesis _ later

/-- A member is claimed exactly where its result is a claim. -/
theorem resolveMembers_claimed (claimed : List String) (registry : EnumRegistry)
    (members : List Member) (result : MemberResult)
    (present : result ∈ (task.resolveMembers claimed registry members).2) :
    result.member.name ∈ claimed ↔ result.verdict = .claimed := by
  rcases task.resolveMembers_rules claimed registry members result present with
    ⟨within, isClaim⟩ | ⟨absent, _, _, rule⟩
  · exact ⟨fun _ => isClaim, fun _ => within⟩
  · exact ⟨fun within => absurd within absent, fun isClaim => absurd isClaim rule.verdict.1⟩

/-- The results that assign are those whose outcome says so. -/
theorem assignments_members (results : List MemberResult) :
    (results.filterMap (·.assignment?)).map (·.member) =
      ((results.map (·.outcome)).filter (·.outcome == .assigned)).map (·.member) := by
  induction results with
  | nil => rfl
  | cons result rest inductionHypothesis =>
      obtain ⟨member, verdict⟩ := result
      cases verdict <;>
        simpa [MemberResult.assignment?, MemberResult.outcome, Verdict.outcome] using inductionHypothesis

/-- The results that report are those whose outcome names a diagnostic. -/
theorem diagnostics_ids (results : List MemberResult) :
    (results.filterMap (·.verdict.diagnostic?)).map (·.id) =
      (results.map (·.outcome)).filterMap (·.outcome.diagnosedId?) := by
  simp only [List.map_filterMap, List.filterMap_map, Function.comp_def, MemberResult.outcome,
    Verdict.outcome_diagnosedId?]

/-- What accounts for every member of the destination in a resolution. -/
structure Accounts (task : MappingTask) (resolution : Resolution) : Prop where
  /-- The members of the destination are ranked in their order. -/
  ranks : task.destinationStruct.members.map (·.rank) =
    List.range task.destinationStruct.members.length
  /-- Each member has one outcome. -/
  outcomes : resolution.plan.outcomes.map (·.member) = task.destinationStruct.members.map (·.name)
  distinct : (resolution.plan.outcomes.map (·.member)).Nodup
  assignments : resolution.plan.assignments.map (·.member) =
    (resolution.plan.outcomes.filter (·.outcome == .assigned)).map (·.member)
  claimed : ∀ name, name ∈ task.constructorResult.claimed ↔
    ⟨name, .constructor⟩ ∈ resolution.plan.outcomes
  /-- The constructor call of the plan populates what is claimed. -/
  call : ∀ call, resolution.plan.constructor = some call →
    call.claimed = task.constructorResult.claimed
  ignored : ∀ member ∈ task.destinationStruct.members,
    ⟨member.name, .ignored .explicit⟩ ∈ resolution.plan.outcomes →
      (∃ directive ∈ task.request.directives.ignores, directive.member = member.name) ∧
        member.required = false
  /-- Enum pairs are diagnosed first, then the constructor, then the members as their outcomes say. -/
  diagnostics : ∃ ofMembers, resolution.diagnostics =
      task.request.directives.enums.filterMap task.pairDiagnostic? ++
        task.constructorResult.diagnostics ++ ofMembers ∧
    ofMembers.map (·.id) = resolution.plan.outcomes.filterMap (·.outcome.diagnosedId?)

/-- The outcome of a member is that of its own result, as names tell members apart. -/
theorem outcome_result (distinct : (task.destinationStruct.members.map (·.name)).Nodup)
    (member : Member) (present : member ∈ task.destinationStruct.members) (outcome : Outcome)
    (found : ⟨member.name, outcome⟩ ∈ task.resolve.plan.outcomes) :
    ∃ result ∈ task.memberResults, result.member = member ∧ result.verdict.outcome = outcome := by
  obtain ⟨result, listed, same⟩ := List.mem_map.mp found
  obtain ⟨sameName, sameOutcome⟩ := MemberOutcome.mk.inj same
  have inStruct := task.memberResults_member listed
  exact ⟨result, listed, List.inj_on_of_nodup_map distinct inStruct present sameName, sameOutcome⟩

/-- What the constructor claims are the members whose outcome says so. -/
theorem claimed_outcome (name : String) :
    name ∈ task.constructorResult.claimed ↔ ⟨name, .constructor⟩ ∈ task.resolve.plan.outcomes := by
  constructor
  · intro claimed
    obtain ⟨member, present, sameName⟩ := task.constructorResult_claimed name claimed
    have members : task.memberResults.map (·.member) = task.destinationStruct.members :=
      task.resolveMembers_members _ _ _
    rw [← members] at present
    obtain ⟨result, listed, sameMember⟩ := List.mem_map.mp present
    have isClaim : result.verdict = .claimed := by
      rw [← task.resolveMembers_claimed _ _ _ result listed, sameMember, sameName]
      exact claimed
    refine List.mem_map.mpr ⟨result, listed, ?_⟩
    rw [MemberResult.outcome, isClaim, sameMember, sameName]
    rfl
  · intro found
    obtain ⟨result, listed, same⟩ := List.mem_map.mp found
    obtain ⟨sameName, sameOutcome⟩ := MemberOutcome.mk.inj same
    rw [← sameName]
    exact (task.resolveMembers_claimed _ _ _ result listed).mpr
      (result.verdict.outcome_constructor.mp sameOutcome)

/-- A resolution into a struct that is laid out accounts for all its members. -/
theorem laidOut_accounts (id : TypeId) (laidOut : task.destinationStruct.IsLaidOut id) :
    task.Accounts task.resolve := by
  have members : task.memberResults.map (·.member) = task.destinationStruct.members :=
    task.resolveMembers_members _ _ _
  have outcomes : task.resolve.plan.outcomes.map (·.member) =
      task.destinationStruct.members.map (·.name) := by
    rw [← members, List.map_map]
    exact List.map_map
  refine ⟨laidOut.ranks, outcomes, ?distinct, assignments_members task.memberResults, task.claimed_outcome,
    (task.resolveConstructor_rule task.pairedRegistry).plan, ?ignored, ?diagnostics⟩
  case distinct =>
    rw [outcomes]
    exact laidOut.distinct
  case ignored =>
    intro member present found
    obtain ⟨result, listed, sameMember, sameOutcome⟩ :=
      task.outcome_result laidOut.distinct member present _ found
    have isIgnored := (result.verdict.outcome_ignored .explicit).mp sameOutcome
    rcases task.resolveMembers_rules _ _ _ result listed with ⟨_, isClaim⟩ | ⟨_, _, _, rule⟩
    · rw [isClaim] at isIgnored
      cases isIgnored
    · rw [← sameMember]
      exact rule.verdict.2 isIgnored
  case diagnostics =>
    exact ⟨task.memberResults.filterMap (·.verdict.diagnostic?), task.resolve_diagnostics,
      diagnostics_ids _⟩

end MappingTask

/-- Every request that resolves against a built schema accounts for the members of its destination. -/
theorem Request.resolve_accounts (draft : SchemaDraft) (schema : Schema) (request : Request)
    (resolution : Resolution) (built : draft.build = .ok schema)
    (resolved : request.resolve schema = .ok resolution) :
    ∃ task, request.toTask schema = .ok task ∧ task.Accounts resolution := by
  obtain ⟨task, id, accepted, laidOut, same⟩ :=
    request.resolve_task draft schema resolution built resolved
  rw [same]
  exact ⟨task, accepted, task.laidOut_accounts id laidOut⟩

/-- Of the members of a summary the constructor takes one; the others are converted, left out and missed. -/
theorem orderRequest_accounts :
    SchemaDraft.orderDraft.build = .ok SchemaDraft.orderSchema ∧
      ∃ resolution, orderRequest.resolve SchemaDraft.orderSchema = .ok resolution ∧
        resolution.plan.outcomes = [⟨"id", .constructor⟩, ⟨"status", .assigned⟩,
          ⟨"label", .ignored .explicit⟩, ⟨"total", .diagnosed .missingPropertyMapping⟩] ∧
        ∃ task, orderRequest.toTask SchemaDraft.orderSchema = .ok task ∧ task.Accounts resolution :=
  ⟨SchemaDraft.orderDraft_build, _, rfl, rfl, Request.resolve_accounts SchemaDraft.orderDraft
    SchemaDraft.orderSchema orderRequest _ SchemaDraft.orderDraft_build rfl⟩

end ObjectMapping
