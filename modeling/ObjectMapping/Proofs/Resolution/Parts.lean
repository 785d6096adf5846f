/-
This file proves what the values of a plan are made of: they read readable members of the source, and they
call the methods that the search among the included mappers finds.
-/

import ObjectMapping.Proofs.Expr
import ObjectMapping.Proofs.Resolution.Values

namespace ObjectMapping

namespace MappingTask

/-- A read is one of a readable member of the source, and a call is one of a method that takes what it reads. -/
def IsMade (task : MappingTask) : Expr → Prop
  | .member owner name kind type => ∃ member ∈ task.sourceStruct.members, member.readable = true ∧
      .member owner name kind type = task.read member
  | .delegate mapper method arguments => ∃ delegation source destination value,
      delegation.Takes task.request.delegates task.params.length source destination ∧
        value.readType? = some source ∧ .delegate mapper method arguments = task.delegateCall delegation value
  | _ => True

/-- So is every read and every call in the expression. -/
def MakesParts (task : MappingTask) (expr : Expr) : Prop := ∀ part ∈ expr.parts, task.IsMade part

variable {task : MappingTask}

theorem read_makesParts {member : Member} (present : member ∈ task.sourceStruct.members)
    (readable : member.readable = true) : task.MakesParts (task.read member) :=
  List.forall_mem_singleton.mpr ⟨member, present, readable, rfl⟩

theorem item_makesParts (name : String) (type : TypeRef) : task.MakesParts (.item name type) :=
  List.forall_mem_singleton.mpr trivial

theorem verbatim_makesParts (written : String) : task.MakesParts (.verbatim written) :=
  List.forall_mem_singleton.mpr trivial

theorem collect_makesParts {source transform : Expr} {binder : String} {target : CollectionKind}
    (ofSource : task.MakesParts source) (ofTransform : task.MakesParts transform) :
    task.MakesParts (.collect source binder transform target) :=
  List.forall_mem_cons.mpr ⟨trivial, List.forall_mem_append.mpr ⟨ofSource, ofTransform⟩⟩

theorem conversion_makesParts (conversion : Conversion) {value : Expr} (made : task.MakesParts value) :
    task.MakesParts (conversion.apply value) := by
  cases conversion with
  | widen | wrap => exact List.forall_mem_cons.mpr ⟨trivial, made⟩
  | widenAndWrap => exact List.forall_mem_cons.mpr ⟨trivial, List.forall_mem_cons.mpr ⟨trivial, made⟩⟩

theorem delegateCall_makesParts {delegation : Delegation} {source destination : TypeRef}
    (takes : delegation.Takes task.request.delegates task.params.length source destination) {value : Expr}
    (isRead : value.readType? = some source) (made : task.MakesParts value) :
    task.MakesParts (task.delegateCall delegation value) := by
  refine List.forall_mem_cons.mpr ⟨⟨delegation, source, destination, value, takes, isRead, rfl⟩, ?_⟩
  intro part inside
  rw [delegateCall, Expr.inside, Expr.allParts, Expr.allParts_params, List.mem_append] at inside
  obtain ofValue | isParam := inside
  · exact made part ofValue
  · obtain ⟨name, _, rfl⟩ := List.mem_map.mp isParam
    trivial

/-- Converting a value that is read adds nothing but calls of included mappers. -/
theorem SingleRule.makesParts {value result : Expr} {source destination : TypeRef}
    (rule : task.SingleRule value source destination result) (isRead : value.readType? = some source)
    (made : task.MakesParts value) : task.MakesParts result := by
  cases rule with
  | exact => exact made
  | enum => exact List.forall_mem_cons.mpr ⟨trivial, made⟩
  | implicit conversion => exact conversion_makesParts conversion made
  | delegated _ _ _ takes => exact delegateCall_makesParts takes isRead made

theorem UserRule.makesParts {destination : TypeRef} {value : Expr} (rule : task.UserRule destination value) :
    task.MakesParts value := by
  cases rule with
  | written text => exact verbatim_makesParts text
  | collected _ _ transform _ present readable =>
      exact collect_makesParts (read_makesParts present readable) (verbatim_makesParts transform)
  | collectedWritten _ _ transform => exact List.forall_mem_cons.mpr ⟨trivial, verbatim_makesParts transform⟩

/-- In whatever way a value of a plan comes about, all of its reads and calls are of that kind. -/
theorem ValueRule.makesParts {destination : TypeRef} {value : Expr} (rule : task.ValueRule destination value) :
    task.MakesParts value := by
  cases rule with
  | given _ rule => exact rule.makesParts
  | converted member _ present readable rule =>
      have made := read_makesParts present readable
      generalize type : member.type = source at rule
      have isRead : (task.read member).readType? = some source := congrArg some type
      cases rule with
      | single _ _ _ rule => exact rule.makesParts isRead made
      | elements _ _ source _ _ each =>
          exact collect_makesParts made (each.makesParts rfl (item_makesParts _ source))

/-- Every read and every call in a plan is of that kind. -/
theorem resolve_makesParts : ∀ value ∈ task.resolve.plan.values, task.MakesParts value := by
  intro value isValue
  obtain ⟨destination, rule⟩ := task.resolve_values value isValue
  exact rule.makesParts

end MappingTask

end ObjectMapping
