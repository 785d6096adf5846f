/-
This file proves what a complete plan says about its resolution: beside a complete plan no diagnostics stand but
those of enum pairs.
-/

import ObjectMapping.Proofs.Resolution.Locations
import ObjectMapping.Proofs.TypeRelation

namespace ObjectMapping

/-- The destination of an enum pair has every variant of the source. -/
def MapEnum.Fits (pair : MapEnum) (schema : Schema) : Prop :=
  ∀ sourceVariants destinationVariants, schema.variants? pair.source = some sourceVariants →
    schema.variants? pair.destination = some destinationVariants → sourceVariants ⊆ destinationVariants

namespace Verdict

/-- Nothing is reported if and only if the outcome is not diagnosed. -/
theorem diagnostic?_none (verdict : Verdict) :
    verdict.diagnostic? = none ↔ (!verdict.outcome.isDiagnosed) = true := by
  cases verdict <;> simp [diagnostic?, outcome, Outcome.isDiagnosed]

end Verdict

namespace MappingTask

section

variable (task : MappingTask)

/-- A pair of enums is reported unless it fits. -/
theorem pairDiagnostic?_none (pair : MapEnum) :
    task.pairDiagnostic? pair = none ↔ pair.Fits task.schema := by
  unfold pairDiagnostic? MapEnum.Fits
  cases task.schema.variants? pair.source with
  | none => simp
  | some sourceVariants =>
      cases task.schema.variants? pair.destination with
      | none => simp
      | some destinationVariants =>
          simp only [Option.some.injEq, ← TypeRelation.missingVariants_nil]
          cases missing : TypeRelation.missingVariants sourceVariants destinationVariants <;>
            simp [missing]

/-- The arguments of the user make a call if and only if none of them is reported. -/
theorem explicitConstructor_called (constructor : Constructor) (arguments : List Transform) :
    (task.explicitConstructor constructor arguments).plan.isSome = true ↔
      (task.explicitConstructor constructor arguments).diagnostics = [] := by
  unfold explicitConstructor
  dsimp only
  split
  · exact ⟨fun _ => rfl, fun _ => rfl⟩
  · next reported =>
      rw [List.isEmpty_iff] at reported
      simpa using reported

end

variable {task : MappingTask}

/-- A constructor is called if and only if nothing about it is reported. -/
theorem ConstructorRule.called {registry : EnumRegistry}
    {decision : EnumRegistry × ConstructorResult} (rule : task.ConstructorRule registry decision) :
    decision.2.plan.isSome = true ↔ decision.2.diagnostics = [] := by
  cases rule with
  | noConstructor | onlyUnfed | several | askedEmptyMissing | askedArgumentsMissing =>
      simp [ConstructorResult.refused]
  | onlyParameterless | onlyFed | askedEmpty => simp [ConstructorResult.call]
  | askedArguments arguments _ constructor => exact task.explicitConstructor_called constructor arguments

variable (task)

theorem resolve_hasErrors : task.resolve.hasErrors = false ↔ task.resolve.diagnostics = [] := by
  rw [Resolution.hasErrors, List.any_eq_false, List.eq_nil_iff_forall_not_mem]
  refine forall₂_congr fun diagnostic reported => ?_
  simp [(task.resolve_isErrorWithin diagnostic reported).isError]

/-- A plan is complete if and only if neither the constructor nor a member is diagnosed. -/
theorem resolve_isComplete : task.resolve.plan.isComplete = true ↔
    task.constructorResult.diagnostics = [] ∧
      task.memberResults.filterMap (·.verdict.diagnostic?) = [] := by
  have called := (task.resolveConstructor_rule task.pairedRegistry).called
  rw [Plan.isComplete, Bool.and_eq_true, List.filterMap_eq_nil_iff]
  refine and_congr called ?_
  change (task.memberResults.map (·.outcome)).all (fun entry => !entry.outcome.isDiagnosed) = true ↔ _
  simp only [List.all_map, List.all_eq_true, Function.comp_def, MemberResult.outcome,
    Verdict.diagnostic?_none]

end MappingTask

/-- A resolution is without errors if and only if its plan is complete and the enum pairs of the user fit. -/
theorem Request.resolve_hasErrors_iff (schema : Schema) (request : Request) (resolution : Resolution)
    (resolved : request.resolve schema = .ok resolution) :
    resolution.hasErrors = false ↔ resolution.plan.isComplete = true ∧
      ∀ pair ∈ request.directives.enums, pair.Fits schema := by
  obtain ⟨task, accepted, rfl⟩ := (request.resolve_ok schema resolution).mp resolved
  have isFor := request.toTask_ok schema task accepted
  rw [task.resolve_hasErrors, task.resolve_diagnostics, task.resolve_isComplete,
    List.append_eq_nil_iff, List.append_eq_nil_iff, List.filterMap_eq_nil_iff, isFor.sameRequest,
    and_assoc, and_comm]
  simp only [task.pairDiagnostic?_none, isFor.sameSchema]

/-- An invoice is mapped without errors once customers can be handed over, and its plan is complete. -/
theorem invoiceRequest_hasErrors_iff :
    ∃ resolution, { invoiceRequest with delegates := [customerMapper] }.resolve SchemaDraft.invoiceSchema =
        .ok resolution ∧
      resolution.hasErrors = false ∧
      (resolution.hasErrors = false ↔ resolution.plan.isComplete = true ∧
        ∀ pair ∈ invoiceRequest.directives.enums, pair.Fits SchemaDraft.invoiceSchema) :=
  ⟨_, rfl, rfl, Request.resolve_hasErrors_iff SchemaDraft.invoiceSchema
    { invoiceRequest with delegates := [customerMapper] } _ rfl⟩

/-- A pair of enums that does not fit is an error beside a complete plan. -/
theorem Request.resolve_isComplete_withErrors :
    ¬∀ (draft : SchemaDraft) (schema : Schema) (request : Request) (resolution : Resolution),
      draft.build = .ok schema → request.resolve schema = .ok resolution →
      (resolution.plan.isComplete = true ↔ resolution.hasErrors = false) := by
  intro complete
  have same := complete SchemaDraft.invoiceDraft SchemaDraft.invoiceSchema
    { invoiceRequest with
      delegates := [customerMapper], directives := ⟨[], [], [], none, [⟨⟨1⟩, ⟨0⟩, ⟨6, 8⟩⟩]⟩ }
    _ SchemaDraft.invoiceDraft_build rfl
  cases same.mp rfl

end ObjectMapping
