/-
This file proves which members a plan leaves without a value: beside a struct literal and without errors, these are
the members without data of their own and those that the user has ignored.
-/

import ObjectMapping.Proofs.Resolution.Completeness

namespace ObjectMapping

/-- The user has ignored the member of this name. -/
def Directives.Ignores (directives : Directives) (name : String) : Prop :=
  ∃ directive ∈ directives.ignores, directive.member = name

theorem Directives.ignore?_isSome (directives : Directives) (name : String) :
    (directives.ignore? name).isSome = true ↔ directives.Ignores name := by
  simp [Directives.ignore?, Directives.Ignores, List.find?_isSome]

/-- An answer that is not reported is a value. -/
theorem Verdict.answers_iff {verdict : Verdict} (clean : verdict.diagnostic? = none) :
    verdict.answers = true ↔ ∃ value, verdict = .assigned value := by
  cases verdict with
  | assigned value => simp [answers]
  | claimed | ignored => simp [answers]
  | diagnosed => cases clean

namespace MappingTask

variable {task : MappingTask}

/-- A settable member with data of its own that is not ignored gets a value, or its lack is reported. -/
theorem MemberRule.answers {registry : EnumRegistry} {member : Member} {decision : EnumRegistry × Verdict}
    (rule : task.MemberRule registry member decision) (isData : member.system = false)
    (settable : member.settable = true) (notIgnored : task.request.directives.ignore? member.name = none) :
    decision.2.answers = true := by
  cases rule with
  | system isSystem =>
      rw [isData] at isSystem
      cases isSystem
  | notSettable _ isFixed =>
      rw [settable] at isFixed
      cases isFixed
  | ignored directive found =>
      rw [notIgnored] at found
      cases found
  | mapped directive => exact task.mappedByUser_answers directive
  | collected directive verdict _ _ _ decided => exact (collectedByUser?_rule decided).answers
  | inferred => exact (task.infer_rule registry member).answers

/-- Where nothing is reported, a member gets a value unless it has no data of its own or is ignored. -/
theorem resolveMember_answers {registry : EnumRegistry} {member : Member} (settable : member.settable = true)
    (clean : (task.resolveMember registry member).2.diagnostic? = none) :
    (task.resolveMember registry member).2.answers = false ↔
      member.system = true ∨ task.request.directives.Ignores member.name := by
  have rule := task.resolveMember_rule registry member
  rw [← Directives.ignore?_isSome]
  cases isSystem : member.system with
  | true => simp [resolveMember, isSystem, Verdict.answers]
  | false =>
      cases isIgnored : task.request.directives.ignore? member.name with
      | none => simp [rule.answers isSystem settable isIgnored]
      | some directive =>
          have decided : (task.resolveMember registry member).2 = ignoredByUser member directive := by
            simp [resolveMember, isSystem, settable, isIgnored]
          rw [decided, ignoredByUser] at clean ⊢
          split at clean
          · cases clean
          · next optional => simp [optional, Verdict.answers]

/-- A constructor without parameters claims nothing. -/
theorem ConstructorRule.literal_claims {registry : EnumRegistry} {decision : EnumRegistry × ConstructorResult}
    (rule : task.ConstructorRule registry decision) {call : ConstructorPlan}
    (planned : decision.2.plan = some call) (isLiteral : call.constructor = .literal) : decision.2.claimed = [] := by
  cases rule with
  | noConstructor | onlyUnfed | several | askedEmptyMissing | askedArgumentsMissing => cases planned
  | onlyParameterless | askedEmpty => rfl
  | onlyFed constructor found _ _ takes _ =>
      cases planned
      obtain rfl : constructor = .literal := isLiteral
      cases takes
  | askedArguments arguments _ constructor =>
      obtain rfl : constructor = .literal := (explicitConstructor_isWritten planned).calls.symm.trans isLiteral
      exact task.explicitConstructor_claimed .literal arguments

/-- Without claims every member is decided about by the rules. -/
theorem resolveMembers_decided (registry : EnumRegistry) (members : List Member) {result : MemberResult}
    (listed : result ∈ (task.resolveMembers [] registry members).2) :
    ∃ before, result.verdict = (task.resolveMember before result.member).2 := by
  induction members generalizing registry with
  | nil => cases listed
  | cons member rest inductionHypothesis =>
      have unclaimed : task.settle [] registry member = task.resolveMember registry member := by simp [settle]
      rw [resolveMembers_cons, unclaimed] at listed
      obtain rfl | later := List.mem_cons.mp listed
      · exact ⟨registry, rfl⟩
      · exact inductionHypothesis _ later

/-- A member is assigned if and only if its result is a value. -/
theorem assigned_iff (distinct : (task.destinationStruct.members.map (·.name)).Nodup) {result : MemberResult}
    (listed : result ∈ task.memberResults) :
    result.member.name ∈ task.resolve.plan.assignments.map (·.member) ↔ ∃ value, result.verdict = .assigned value := by
  constructor
  · intro isAssigned
    obtain ⟨assignment, present, named⟩ := List.mem_map.mp isAssigned
    obtain ⟨other, otherListed, otherNamed, _, assigned⟩ := task.assignments_result present
    have results : (task.memberResults.map (·.member.name)).Nodup := by
      rw [← task.resolveMembers_members task.constructorResult.claimed task.constructedRegistry
        task.destinationStruct.members, List.map_map] at distinct
      exact distinct
    obtain rfl := List.inj_on_of_nodup_map results otherListed listed (otherNamed.trans named)
    exact ⟨_, assigned⟩
  · rintro ⟨value, assigned⟩
    refine List.mem_map.mpr ⟨⟨result.member.name, result.member.kind, value⟩, ?_, rfl⟩
    exact List.mem_filterMap.mpr ⟨result, listed, by rw [MemberResult.assignment?, assigned]⟩

/-- Beside a struct literal and without errors, a settable member stays without a value if and only if it has no
data of its own or the user has ignored it. -/
theorem literal_unassigned {id : TypeId} (laidOut : task.destinationStruct.IsLaidOut id) {call : ConstructorPlan}
    (planned : task.resolve.plan.constructor = some call) (isLiteral : call.constructor = .literal)
    (clean : task.resolve.hasErrors = false) {member : Member} (isMember : member ∈ task.destinationStruct.members)
    (settable : member.settable = true) :
    member.name ∉ task.resolve.plan.assignments.map (·.member) ↔
      member.system = true ∨ task.request.directives.Ignores member.name := by
  have unclaimed : task.constructorResult.claimed = [] :=
    (task.resolveConstructor_rule task.pairedRegistry).literal_claims planned isLiteral
  have unreported : ∀ result ∈ task.memberResults, result.verdict.diagnostic? = none := by
    rw [resolve_hasErrors, resolve_diagnostics, List.append_eq_nil_iff] at clean
    exact List.filterMap_eq_nil_iff.mp clean.2
  rw [← task.resolveMembers_members task.constructorResult.claimed task.constructedRegistry
    task.destinationStruct.members] at isMember
  obtain ⟨result, listed, rfl⟩ := List.mem_map.mp isMember
  have noReport := unreported result listed
  rw [assigned_iff laidOut.distinct listed, ← Verdict.answers_iff noReport, Bool.not_eq_true]
  obtain ⟨before, decided⟩ : ∃ before, result.verdict = (task.resolveMember before result.member).2 := by
    rw [unclaimed] at listed
    exact resolveMembers_decided _ _ listed
  rw [decided] at noReport ⊢
  exact resolveMember_answers settable noReport

end MappingTask

end ObjectMapping
