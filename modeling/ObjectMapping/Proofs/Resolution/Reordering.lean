/-
This file proves that the order in which types are declared and defined does not matter. Requests about the same
types resolve alike, and whatever is read of the plans is the same: only ids differ, as the orders do.
-/

import ObjectMapping.Proofs.Renumbering.Resolution
import ObjectMapping.Proofs.Schema.Reordering

namespace ObjectMapping

/-- The second resolution reads as the first does: its texts, names, outcomes and diagnostics are the same, whatever
the ids of the types are. -/
structure Resolution.ReadsLike (first second : Resolution) : Prop where
  state : second.plan.state = first.plan.state
  constructor :
    second.plan.constructor.map (fun call =>
        (call.constructor.name, call.arguments.map (fun argument => (argument.param, argument.expr.text)),
          call.claimed)) =
      first.plan.constructor.map fun call =>
        (call.constructor.name, call.arguments.map (fun argument => (argument.param, argument.expr.text)),
          call.claimed)
  assignments :
    second.plan.assignments.map (fun assignment =>
        (assignment.member, assignment.kind, assignment.expr.text)) =
      first.plan.assignments.map fun assignment => (assignment.member, assignment.kind, assignment.expr.text)
  outcomes : second.plan.outcomes = first.plan.outcomes
  enumFunctions :
    second.plan.enumFunctions.map (fun function => (function.name, function.variants)) =
      first.plan.enumFunctions.map fun function => (function.name, function.variants)
  diagnostics : second.diagnostics = first.diagnostics

theorem Resolution.renumbered_readsLike (renumber : Equiv.Perm TypeId) (resolution : Resolution) :
    resolution.ReadsLike (resolution.renumbered renumber) where
  state := rfl
  constructor := by
    have sameName (constructor : Constructor) : (constructor.renumbered renumber).name = constructor.name := by
      cases constructor <;> rfl
    simp [Resolution.renumbered, Plan.renumbered, ConstructorPlan.renumbered, ConstructorArgument.renumbered,
      sameName, Function.comp_def]
  assignments := by
    simp [Resolution.renumbered, Plan.renumbered, MemberAssignment.renumbered, Function.comp_def]
  outcomes := rfl
  enumFunctions := by
    simp [Resolution.renumbered, Plan.renumbered, EnumFunction.renumbered, Function.comp_def]
  diagnostics := rfl

/-- The task about the types of the other schema. -/
def MappingTask.renumbered (renumber : Equiv.Perm TypeId) (other : Schema) (task : MappingTask) :
    MappingTask where
  schema := other
  request := task.request.renumbered renumber
  source := task.source.renumbered renumber
  sourceStruct := task.sourceStruct.renumbered renumber
  destination := task.destination.renumbered renumber
  destinationStruct := task.destinationStruct.renumbered renumber
  sourceParam := task.sourceParam

/-- The member that is found among the renumbered ones is the counterpart of the one that is found. -/
theorem Member.counterpart_find? (renumber : Equiv.Perm TypeId) (members : List Member)
    (holds : String → Bool) :
    Option.Rel (Counterpart renumber) (members.find? fun member => holds member.name)
      ((members.map (·.renumbered renumber)).find? fun member => holds member.name) := by
  rw [List.find?_map]
  change Option.Rel _ _ ((members.find? fun member => holds member.name).map _)
  cases members.find? fun member => holds member.name with
  | none => exact .none
  | some member => exact .some rfl

section

variable {renumber : Equiv.Perm TypeId} {schema other : Schema}
  (sameTypes : schema.IsRenumbered renumber other)

include sameTypes

theorem Schema.IsRenumbered.mirrors : schema.Mirrors renumber other := by
  constructor <;> intro id
  · rw [identOf, identOf, sameTypes.types]
    cases found : schema.get? id with
    | some descriptor => rfl
    | none => exact congrArg TypeId.text (sameTypes.unknown id found)
  · rw [variants?, variants?, sameTypes.types]
    cases schema.get? id with
    | some descriptor =>
        obtain ⟨_, _, kind⟩ := descriptor
        cases kind <;> rfl
    | none => rfl

namespace MappingTask

variable {task : MappingTask}

theorem mirrors_renumbered (sameSchema : task.schema = schema) :
    task.Mirrors renumber (task.renumbered renumber other) where
  schemas := by
    rw [sameSchema]
    exact sameTypes.mirrors
  request := rfl
  source := rfl
  sourceParam := rfl
  destination := rfl
  members := rfl
  constructors := rfl
  named member _ := by
    rw [StructType.member?_eq, StructType.member?_eq]
    exact Member.counterpart_find? renumber _ (· == member.name)
  fed _ _ parameter _ := by
    rw [StructType.memberIgnoringCase?_eq, StructType.memberIgnoringCase?_eq]
    exact Member.counterpart_find? renumber _ (Text.lower · == Text.lower parameter.name)

theorem IsFor.renumbered {request : Request} (isFor : task.IsFor request schema) :
    (task.renumbered renumber other).IsFor (request.renumbered renumber) other := by
  obtain ⟨sourceId, others, params, sourceFound, sourceIsStruct⟩ := isFor.source
  obtain ⟨destinationId, result, destinationFound, destinationIsStruct⟩ := isFor.destination
  have structs {descriptor : TypeDescriptor} {type : StructType} (isStruct : descriptor.kind = .struct type) :
      (descriptor.renumbered renumber).kind = .struct (type.renumbered renumber) := by
    simp [TypeDescriptor.renumbered, isStruct]
  refine ⟨rfl, congrArg (Request.renumbered renumber) isFor.sameRequest,
    ⟨renumber sourceId, others.map (·.renumbered renumber), ?_, ?_, structs sourceIsStruct⟩,
    ⟨renumber destinationId, ?_, ?_, structs destinationIsStruct⟩, ?_, ?_⟩
  · simp [Request.renumbered, MapperMethod.renumbered, params, Parameter.renumbered, TypeRef.renumbered,
      MappingTask.renumbered]
  · rw [sameTypes.types, sourceFound]
    rfl
  · simp [Request.renumbered, MapperMethod.renumbered, result, TypeRef.renumbered]
  · rw [sameTypes.types, destinationFound]
    rfl
  · intro target present
    have isMember := isFor.targets target present
    simpa [MappingTask.renumbered, StructType.member?_eq, StructType.renumbered, List.find?_map, Member.renumbered,
      MemberSpec.renumbered, Function.comp_def] using isMember
  · intro pair present
    obtain ⟨original, isPair, rfl⟩ := List.mem_map.mp present
    have sameVariants := sameTypes.mirrors.variants
    simp only [MapEnum.renumbered, sameVariants]
    exact isFor.enums original isPair

end MappingTask

/-- A request about the types of the other schema resolves to the same under the other ids. -/
theorem Request.resolve_renumbered {request : Request} {resolution : Resolution}
    (resolved : request.resolve schema = .ok resolution) :
    (request.renumbered renumber).resolve other = .ok (resolution.renumbered renumber) := by
  obtain ⟨task, accepted, rfl⟩ := (request.resolve_ok schema resolution).mp resolved
  have isFor := request.toTask_ok schema task accepted
  have mirrors := MappingTask.mirrors_renumbered sameTypes isFor.sameSchema
  rw [← mirrors.resolve, resolve_ok]
  exact ⟨_, (MappingTask.IsFor.renumbered sameTypes isFor).toTask, rfl⟩

end

/-- Names may be declared and definitions added in any order. Either order makes a schema or neither does, and
requests about the same types resolve on the one if and only if they do on the other, to the same up to the ids. -/
theorem Request.resolve_reordered (renumber : Equiv.Perm TypeId) (steps others : List DraftStep)
    (reorders : Reorders renumber steps others) :
    ((∃ schema, (SchemaDraft.ofSteps steps).build = .ok schema) ↔
      ∃ other, (SchemaDraft.ofSteps others).build = .ok other) ∧
    ∀ schema other, (SchemaDraft.ofSteps steps).build = .ok schema →
      (SchemaDraft.ofSteps others).build = .ok other → ∀ request : Request,
        ((∃ first, request.resolve schema = .ok first) ↔
          ∃ second, (request.renumbered renumber).resolve other = .ok second) ∧
        ∀ first second, request.resolve schema = .ok first →
          (request.renumbered renumber).resolve other = .ok second →
            second = first.renumbered renumber ∧ first.ReadsLike second := by
  refine ⟨⟨reorders.builds, reorders.symm.builds⟩, ?_⟩
  intro schema other built alsoBuilt request
  have forth := reorders.isRenumbered built alsoBuilt
  have back := reorders.symm.isRenumbered alsoBuilt built
  refine ⟨⟨?_, ?_⟩, ?_⟩
  · rintro ⟨first, resolved⟩
    exact ⟨_, resolve_renumbered forth resolved⟩
  · rintro ⟨second, resolved⟩
    have resolvedBack := resolve_renumbered back resolved
    rw [renumbered_trans, Equiv.self_trans_symm, renumbered_refl] at resolvedBack
    exact ⟨_, resolvedBack⟩
  · intro first second resolved alsoResolved
    rw [resolve_renumbered forth resolved] at alsoResolved
    cases alsoResolved
    exact ⟨rfl, first.renumbered_readsLike renumber⟩

section

open SchemaDraft

/-- The definitions of `orderDraft`, under other ids where `renumber` gives them. -/
def orderDefinitions (renumber : Equiv.Perm TypeId) : List DraftStep :=
  [.add "Status" (.enum ["Open", "Closed"]),
    .add "State" (.enum ["Closed", "Open"]),
    .add "Order" (.struct ⟨none,
      [.accessible "id" (.scalar .i32) .field, .accessible "status" (.named (renumber ⟨0⟩)) .field],
      [.literal]⟩),
    .add "Summary" (.struct ⟨none,
      [.accessible "id" (.scalar .i64) .field, .accessible "status" (.named (renumber ⟨1⟩)) .field,
        .accessible "label" (.scalar .string) .field, .accessible "total" (.scalar .f64) .field],
      [.function "new" [⟨"id", .scalar .i64⟩]]⟩)]

def orderSteps : List DraftStep :=
  ["Status", "State", "Order", "Summary"].map .declare ++ orderDefinitions (.refl _)

/-- The order is declared first, and everything is defined from the end. -/
def orderStepsReordered : List DraftStep :=
  ["Order", "State", "Status", "Summary"].map .declare ++ (orderDefinitions (.swap ⟨0⟩ ⟨2⟩)).reverse

/-- Two names change their places. -/
theorem orderSteps_named (id : TypeId) :
    (declaredNames orderStepsReordered)[(Equiv.swap (⟨0⟩ : TypeId) ⟨2⟩ id).index]? =
      (declaredNames orderSteps)[id.index]? := by
  have before : declaredNames orderSteps = ["Status", "State", "Order", "Summary"] := by decide +kernel
  have after : declaredNames orderStepsReordered = ["Order", "State", "Status", "Summary"] := by decide +kernel
  rw [before, after]
  match id with
  | ⟨0⟩ | ⟨1⟩ | ⟨2⟩ | ⟨3⟩ => rfl
  | ⟨further + 4⟩ => rw [Equiv.swap_apply_of_ne_of_ne (by simp) (by simp)]; rfl

theorem orderSteps_reorders : Reorders (.swap ⟨0⟩ ⟨2⟩) orderSteps orderStepsReordered where
  declaresFirst := ⟨_, _, rfl, by simp [orderDefinitions, DraftStep.ident?]⟩
  alsoDeclaresFirst := ⟨_, _, rfl, by simp [orderDefinitions, DraftStep.ident?]⟩
  ids ident id := by rw [declares_iff, declares_iff, orderSteps_named]
  unknown id undeclared := by
    have notFirst : id ≠ ⟨0⟩ := by
      rintro rfl
      exact undeclared "Status" ((declares_iff _ _ _).mpr (by decide +kernel))
    have notThird : id ≠ ⟨2⟩ := by
      rintro rfl
      exact undeclared "Order" ((declares_iff _ _ _).mpr (by decide +kernel))
    exact Equiv.swap_apply_of_ne_of_ne notFirst notThird
  definitions := by decide +kernel

/-- The order is mapped in the same way, with the same function for its status, wherever it is declared. -/
theorem orderRequest_reordered :
    ∃ schema other first second, (ofSteps orderSteps).build = .ok schema ∧
      (ofSteps orderStepsReordered).build = .ok other ∧ orderRequest.resolve schema = .ok first ∧
      (orderRequest.renumbered (.swap ⟨0⟩ ⟨2⟩)).resolve other = .ok second ∧
      first.plan.enumFunctions.map (fun function => (function.key.source, function.name)) =
        [(⟨0⟩, "map_to_state")] ∧
      second.plan.enumFunctions.map (fun function => (function.key.source, function.name)) =
        [(⟨2⟩, "map_to_state")] ∧
      first.ReadsLike second := by
  have built : (ofSteps orderSteps).build = .ok orderSchema := by decide +kernel
  obtain ⟨sameBuilds, sameResolved⟩ :=
    Request.resolve_reordered (.swap ⟨0⟩ ⟨2⟩) orderSteps orderStepsReordered orderSteps_reorders
  obtain ⟨other, alsoBuilt⟩ := sameBuilds.mp ⟨orderSchema, built⟩
  obtain ⟨sameAccepted, same⟩ := sameResolved orderSchema other built alsoBuilt orderRequest
  obtain ⟨second, alsoResolved⟩ := sameAccepted.mp ⟨_, rfl⟩
  obtain ⟨isRenumbered, readsLike⟩ := same _ second rfl alsoResolved
  refine ⟨orderSchema, other, _, second, built, alsoBuilt, rfl, alsoResolved, by decide +kernel, ?_, readsLike⟩
  rw [isRenumbered]
  decide +kernel

end

end ObjectMapping
