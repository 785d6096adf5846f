/-
This file proves what can keep a mapper from being rendered once its plan has a constructor: what the values of the
plan need, each of which is written out, and the names that they are written to.
-/

import ObjectMapping.Proofs.Mapper.Declaration
import ObjectMapping.Proofs.Rendering.Value
import ObjectMapping.Proofs.Resolution.Values
import ObjectMapping.Proofs.Schema.Built
import ObjectMapping.Rendering.Mapper

namespace ObjectMapping

open Rendering

/-- What the values of a plan cannot be rendered without. -/
def Plan.needs (plan : Plan) : List Need := plan.values.flatMap (·.needs)

/-- What makes a plan fit its destination: a literal takes no arguments, and members of the destination are
assigned, each once. -/
structure Plan.Fits (plan : Plan) (call : ConstructorPlan) (destination : StructType) : Prop where
  planned : plan.constructor = some call
  literal : call.constructor = .literal → call.arguments = []
  assigned : ∀ assignment ∈ plan.assignments, ∃ member ∈ destination.members, member.name = assignment.member
  once : (plan.assignments.map (·.member)).Nodup

/-- What the values of a plan are written to can stand as identifiers. -/
structure Plan.WritesToUsable (plan : Plan) (call : ConstructorPlan) (destination : TypeDescriptor × StructType) :
    Prop where
  ident : IsUsable destination.1.ident
  fields : call.constructor = .literal → ∀ member ∈ destination.2.members, Scope.isLiteralField member →
    IsUsable member.name
  function : ∀ name parameters, call.constructor = .function name parameters → IsUsable name
  members : ∀ assignment ∈ plan.assignments, IsUsable assignment.member
  setters : ∀ assignment ∈ plan.assignments, assignment.kind = .property → IsUsable (setterName assignment.member)

namespace Rendering

/-- The names that a write stands behind. -/
def writtenNames (assignment : MemberAssignment) : List String :=
  match assignment.kind with
  | .field => [assignment.member]
  | .property => [assignment.member, setterName assignment.member]

def writeNeeds (assignment : MemberAssignment) : List Need :=
  assignment.expr.needs ++ (writtenNames assignment).map .identifier

theorem write_requires (scope : Scope) (assignment : MemberAssignment) :
    Requires (writeNeeds assignment) (scope.write assignment) := by
  unfold Scope.write writeNeeds writtenNames
  refine (value_requires scope assignment.expr).bind fun value _ => ?_
  cases assignment.kind with
  | field => exact identifier_requires (.pure _)
  | property => exact identifier_requires (identifier_requires (.pure _))

def fieldNeeds (plan : Plan) (member : Member) : List Need :=
  .identifier member.name :: (plan.assignment? member.name).elim [] (·.expr.needs)

theorem fieldValue_requires (scope : Scope) (plan : Plan) (member : Member) :
    Requires (fieldNeeds plan member) (scope.fieldValue plan member) := by
  unfold Scope.fieldValue fieldNeeds
  refine identifier_requires ?_
  cases plan.assignment? member.name with
  | none => exact .pure _
  | some assignment => exact (value_requires scope assignment.expr).map _

/-- What a body needs for the names and for the values in it. -/
def bodyNeeds (plan : Plan) (call : ConstructorPlan) (destination : TypeDescriptor × StructType) : List Need :=
  .identifier destination.1.ident ::
    match call.constructor with
    | .literal =>
        (destination.2.members.filter Scope.isLiteralField).flatMap (fieldNeeds plan) ++
          (plan.assignments.filter (Scope.isWrittenLater destination.2)).flatMap writeNeeds
    | .function name _ =>
        .identifier name :: (call.arguments.flatMap (·.expr.needs) ++ plan.assignments.flatMap writeNeeds)

theorem bodyWith_requires (scope : Scope) (plan : Plan) (call : ConstructorPlan)
    (destination : TypeDescriptor × StructType) :
    Requires (bodyNeeds plan call destination) (scope.bodyWith plan call destination) := by
  unfold Scope.bodyWith bodyNeeds
  refine identifier_requires ?_
  cases call.constructor with
  | literal =>
      have fields : Requires ((destination.2.members.filter Scope.isLiteralField).flatMap (fieldNeeds plan))
          ((destination.2.members.filter Scope.isLiteralField).mapM (scope.fieldValue plan)) :=
        .mapM fun member _ => fieldValue_requires scope plan member
      exact fields.bind fun _ _ => (Requires.mapM fun assignment _ => write_requires scope assignment).map _
  | function name parameters =>
      refine identifier_requires ?_
      have arguments : Requires (call.arguments.flatMap (·.expr.needs))
          (call.arguments.mapM fun argument => scope.value argument.expr) :=
        .mapM fun argument _ => value_requires scope argument.expr
      exact arguments.bind fun _ _ => (Requires.mapM fun assignment _ => write_requires scope assignment).map _

section

variable {plan : Plan} {call : ConstructorPlan} {type : StructType} (fits : plan.Fits call type)

theorem assigned_needs {assignment : MemberAssignment} (present : assignment ∈ plan.assignments) :
    assignment.expr.needs ⊆ plan.needs := by
  have isValue : assignment.expr ∈ plan.values := List.mem_append_right _ (List.mem_map_of_mem present)
  exact fun need needed => List.mem_flatMap.mpr ⟨assignment.expr, isValue, needed⟩

/-- What is needed for a write is needed for a value of the plan, or is a name that it stands behind. -/
theorem mem_writeNeeds {assignments : List MemberAssignment} (present : assignments ⊆ plan.assignments) {need : Need}
    (needed : need ∈ assignments.flatMap writeNeeds) : need ∈ plan.needs ∨
      ∃ assignment ∈ plan.assignments, ∃ name ∈ writtenNames assignment, need = .identifier name := by
  obtain ⟨assignment, isWritten, needed⟩ := List.mem_flatMap.mp needed
  obtain ofValue | ofName := List.mem_append.mp needed
  · exact .inl (assigned_needs (present isWritten) ofValue)
  · obtain ⟨name, isName, rfl⟩ := List.mem_map.mp ofName
    exact .inr ⟨assignment, present isWritten, name, isName, rfl⟩

include fits

theorem needs_within_body {id : TypeId} (laidOut : type.IsLaidOut id) (descriptor : TypeDescriptor) :
    plan.needs ⊆ bodyNeeds plan call (descriptor, type) := by
  intro need needed
  obtain ⟨value, isValue, needed⟩ := List.mem_flatMap.mp needed
  refine List.mem_cons_of_mem _ ?_
  rw [Plan.values, fits.planned, Option.elim_some] at isValue
  have ofWrite {assignments : List MemberAssignment} {assignment : MemberAssignment}
      (isWritten : assignment ∈ assignments) (needed : need ∈ assignment.expr.needs) :
      need ∈ assignments.flatMap writeNeeds :=
    List.mem_flatMap.mpr ⟨assignment, isWritten, List.mem_append_left _ needed⟩
  cases constructor : call.constructor with
  | literal =>
      -- A literal writes each assignment to a field of its own, or leaves it to a later write.
      rw [fits.literal constructor, List.map_nil, List.nil_append] at isValue
      obtain ⟨assignment, present, rfl⟩ := List.mem_map.mp isValue
      obtain ⟨member, isMember, sameName⟩ := fits.assigned assignment present
      by_cases isField : Scope.isLiteralField member
      · refine List.mem_append_left _ (List.mem_flatMap.mpr ⟨member, List.mem_filter.mpr ⟨isMember, isField⟩, ?_⟩)
        refine List.mem_cons_of_mem _ ?_
        rw [sameName, Plan.assignment?, find?_named fits.once present]
        exact needed
      · refine List.mem_append_right _ (ofWrite (List.mem_filter.mpr ⟨present, ?_⟩) needed)
        rw [Scope.isWrittenLater, ← sameName, laidOut.member? member isMember, Option.any_some]
        simpa using isField
  | function name parameters =>
      refine List.mem_cons_of_mem _ ?_
      obtain isArgument | isAssigned := List.mem_append.mp isValue
      · obtain ⟨argument, present, rfl⟩ := List.mem_map.mp isArgument
        exact List.mem_append_left _ (List.mem_flatMap.mpr ⟨argument, present, needed⟩)
      · obtain ⟨assignment, present, rfl⟩ := List.mem_map.mp isAssigned
        exact List.mem_append_right _ (ofWrite present needed)

/-- What a body needs is needed for the values of the plan, or met. -/
theorem bodyNeeds_closed {descriptor : TypeDescriptor} (usable : plan.WritesToUsable call (descriptor, type)) :
    ∀ need ∈ bodyNeeds plan call (descriptor, type), need ∈ plan.needs ∨ need.IsMet := by
  have ofWrites {assignments : List MemberAssignment} (present : assignments ⊆ plan.assignments) {need : Need}
      (needed : need ∈ assignments.flatMap writeNeeds) : need ∈ plan.needs ∨ need.IsMet := by
    refine (mem_writeNeeds present needed).imp_right ?_
    rintro ⟨assignment, isAssigned, name, isName, rfl⟩
    unfold writtenNames at isName
    cases kind : assignment.kind with
    | field =>
        rw [kind] at isName
        exact List.mem_singleton.mp isName ▸ usable.members assignment isAssigned
    | property =>
        rw [kind] at isName
        obtain rfl | isSetter := List.mem_cons.mp isName
        · exact usable.members assignment isAssigned
        · exact List.mem_singleton.mp isSetter ▸ usable.setters assignment isAssigned kind
  refine List.forall_mem_cons.mpr ⟨.inr usable.ident, ?_⟩
  cases constructor : call.constructor with
  | literal =>
      refine List.forall_mem_append.mpr ⟨?fields, fun need => ofWrites (List.filter_subset_self _)⟩
      intro need needed
      obtain ⟨member, isField, needed⟩ := List.mem_flatMap.mp needed
      obtain ⟨isMember, isField⟩ := List.mem_filter.mp isField
      obtain rfl | needed := List.mem_cons.mp needed
      · exact .inr (usable.fields constructor member isMember isField)
      · cases found : plan.assignment? member.name with
        | none =>
            rw [found] at needed
            cases needed
        | some assignment =>
            rw [found] at needed
            exact .inl (assigned_needs (List.mem_of_find?_eq_some found) needed)
  | function name parameters =>
      refine List.forall_mem_cons.mpr ⟨.inr (usable.function name parameters constructor), ?_⟩
      refine List.forall_mem_append.mpr ⟨?arguments, fun need => ofWrites (List.Subset.refl _)⟩
      intro need needed
      obtain ⟨argument, present, needed⟩ := List.mem_flatMap.mp needed
      refine .inl (List.mem_flatMap.mpr ⟨argument.expr, List.mem_append_left _ ?_, needed⟩)
      rw [fits.planned]
      exact List.mem_map_of_mem present

/-- The body for a plan needs what the values of the plan need. -/
theorem bodyWith_needs {id : TypeId} (laidOut : type.IsLaidOut id) {descriptor : TypeDescriptor}
    (usable : plan.WritesToUsable call (descriptor, type)) (scope : Scope) :
    Requires plan.needs (scope.bodyWith plan call (descriptor, type)) :=
  (bodyWith_requires scope plan call (descriptor, type)).ofOpen (needs_within_body fits laidOut descriptor)
    (bodyNeeds_closed fits usable)

end

/-- The method of the source exists for every signature that declares a mapping method. -/
theorem sourceMethod_ok {host : Host} {signature : Source.Signature} {method : MapperMethod}
    (declared : Mapper.mappingMethod host signature = .ok method) :
    ∃ offered, sourceMethod signature = .ok offered := by
  have declares := Mapper.mappingMethod_declares declared
  have named : ∀ input ∈ Host.typedInputs signature, ∃ found, namedInput input = .ok found := by
    rintro ⟨pattern, type⟩ present
    obtain ⟨param, _, paramRead⟩ := forall₂_left declares.params _ present
    cases pattern with
    | name tokens binder => exact ⟨(binder, type), rfl⟩
    | _ => cases paramRead
  obtain ⟨first, others, split⟩ := List.exists_cons_of_ne_nil declares.source
  rw [split] at named
  obtain ⟨firstNamed, othersNamed⟩ := List.forall_mem_cons.mp named
  obtain ⟨⟨name, source⟩, firstRead⟩ := firstNamed
  obtain ⟨found, othersRead⟩ := (mapM_succeeds _ _).mpr othersNamed
  have read : (Host.typedInputs signature).mapM namedInput = .ok ((name, source) :: found) := by
    rw [split, List.mapM_cons, firstRead, othersRead]
    rfl
  rw [sourceMethod, read]
  cases source with
  | reference tokens isMutable target => cases isMutable <;> exact ⟨_, rfl⟩
  | _ => exact ⟨_, rfl⟩

end Rendering

end ObjectMapping
