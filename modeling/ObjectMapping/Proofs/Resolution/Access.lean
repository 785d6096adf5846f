/-
This file proves that a plan keeps to what the destination permits: it assigns settable members alone, and it creates
the destination by one of its constructors. A plan without errors can be carried out.
-/

import ObjectMapping.Proofs.Rendering.Body
import ObjectMapping.Proofs.Resolution.Completeness
import ObjectMapping.Proofs.Resolution.Rules

namespace ObjectMapping

namespace MappingTask

variable {task : MappingTask}

/-- A member that cannot be set is settled before any value is looked for. -/
theorem settle_settable {claimed : List String} {registry : EnumRegistry} {member : Member} {value : Expr}
    (assigned : (task.settle claimed registry member).2 = .assigned value) : member.settable = true := by
  unfold settle at assigned
  split at assigned
  · cases assigned
  · unfold resolveMember at assigned
    dsimp only at assigned
    split at assigned
    · cases assigned
    · split at assigned
      · cases assigned
      · next settable => simpa using settable

theorem resolveMembers_settable (claimed : List String) (registry : EnumRegistry) (members : List Member) :
    ∀ result ∈ (task.resolveMembers claimed registry members).2, ∀ value, result.verdict = .assigned value →
      result.member.settable = true := by
  induction members generalizing registry with
  | nil =>
      intro result present
      cases present
  | cons member rest inductionHypothesis =>
      rw [resolveMembers_cons, List.forall_mem_cons]
      refine ⟨?_, inductionHypothesis _⟩
      intro value (assigned : (task.settle claimed registry member).2 = .assigned value)
      exact settle_settable assigned

/-- Every assignment is to a settable member of the destination. -/
theorem assignments_settable : ∀ assignment ∈ task.resolve.plan.assignments,
    ∃ member ∈ task.destinationStruct.members, member.name = assignment.member ∧
      member.kind = assignment.kind ∧ member.settable = true := by
  intro assignment present
  obtain ⟨result, listed, named, kind, assigned⟩ := task.assignments_result present
  exact ⟨result.member, task.memberResults_member listed, named, kind,
    resolveMembers_settable _ _ _ result listed assignment.expr assigned⟩

/-- Whichever constructor is chosen, it is one of the destination. -/
theorem ConstructorRule.offered {registry : EnumRegistry} {decision : EnumRegistry × ConstructorResult}
    (rule : task.ConstructorRule registry decision) {call : ConstructorPlan}
    (planned : decision.2.plan = some call) : call.constructor ∈ task.destinationStruct.constructors := by
  cases rule with
  | noConstructor | onlyUnfed | several | askedEmptyMissing | askedArgumentsMissing => cases planned
  | onlyParameterless constructor _ only | onlyFed constructor _ _ only =>
      cases planned
      exact only ▸ List.mem_cons_self
  | askedEmpty _ constructor _ found =>
      cases planned
      exact List.mem_of_find?_eq_some found
  | askedArguments _ _ constructor _ found =>
      rw [(explicitConstructor_isWritten planned).calls]
      exact List.mem_of_find?_eq_some found

theorem constructor_offered {call : ConstructorPlan} (planned : task.resolve.plan.constructor = some call) :
    call.constructor ∈ task.destinationStruct.constructors :=
  (task.resolveConstructor_rule task.pairedRegistry).offered planned

/-- A constructor that cannot be called is reported as an error. -/
theorem ConstructorRule.planned {registry : EnumRegistry} {decision : EnumRegistry × ConstructorResult}
    (rule : task.ConstructorRule registry decision)
    (clean : ∀ diagnostic ∈ decision.2.diagnostics, diagnostic.isError = false) :
    ∃ call, decision.2.plan = some call := by
  rw [← Option.isSome_iff_exists, rule.called, List.eq_nil_iff_forall_not_mem]
  intro diagnostic reported
  have isError := (rule.reportsWithin diagnostic reported).isError
  rw [clean diagnostic reported] at isError
  cases isError

/-- A struct literal is called without arguments. -/
theorem ConstructorRule.literal {registry : EnumRegistry} {decision : EnumRegistry × ConstructorResult}
    (rule : task.ConstructorRule registry decision) {call : ConstructorPlan}
    (planned : decision.2.plan = some call) (literal : call.constructor = .literal) : call.arguments = [] := by
  cases rule with
  | noConstructor | onlyUnfed | several | askedEmptyMissing | askedArgumentsMissing => cases planned
  | onlyParameterless | askedEmpty =>
      cases planned
      rfl
  | onlyFed constructor found _ _ takes _ =>
      cases planned
      obtain rfl : constructor = .literal := literal
      cases takes
  | askedArguments arguments _ constructor =>
      have written := explicitConstructor_isWritten planned
      obtain rfl : constructor = .literal := written.calls.symm.trans literal
      refine List.eq_nil_iff_forall_not_mem.mpr fun argument present => ?_
      obtain ⟨_, none, _⟩ := written.arguments argument present
      cases none

/-- The plan of a resolution without errors fits the destination. -/
theorem resolve_fits {id : TypeId} (laidOut : task.destinationStruct.IsLaidOut id)
    (clean : ∀ diagnostic ∈ task.resolve.diagnostics, diagnostic.isError = false) :
    ∃ call, task.resolve.plan.Fits call task.destinationStruct := by
  have rule := task.resolveConstructor_rule task.pairedRegistry
  have inDiagnostics {diagnostic : Diagnostic} (member : diagnostic ∈ task.constructorResult.diagnostics) :
      diagnostic ∈ task.resolve.diagnostics :=
    List.mem_append_left _ (List.mem_append_right _ member)
  obtain ⟨call, planned⟩ := rule.planned fun diagnostic member => clean diagnostic (inDiagnostics member)
  refine ⟨call, planned, rule.literal planned, ?_, ?_⟩
  · intro assignment present
    have isName := task.assignments_sublist.subset (List.mem_map_of_mem present)
    obtain ⟨member, isMember, same⟩ := List.mem_map.mp isName
    exact ⟨member, isMember, same⟩
  · exact task.assignments_sublist.nodup laidOut.distinct

end MappingTask

end ObjectMapping
