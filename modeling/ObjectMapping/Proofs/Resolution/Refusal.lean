/-
This file says which requests are refused. A request is refused if and only if it is malformed: every other
request is resolved, and against a built schema no look-up on the way comes to nothing.
-/

import ObjectMapping.Proofs.Strict.Resolution

namespace ObjectMapping

/-- A type is a plain reference to a struct of the schema. -/
def Schema.IsStruct (schema : Schema) (type : TypeRef) (struct : StructType) : Prop :=
  ∃ id descriptor, type = .named id ∧ schema.get? id = some descriptor ∧ descriptor.kind = .struct struct

/-- What is wrong with a request that is refused. -/
inductive Request.IsMalformed (request : Request) (schema : Schema) : Prop
  | noParameter (none : request.method.params = [])
  | source (first : Parameter) (others : List Parameter) (given : request.method.params = first :: others)
      (noStruct : ∀ struct, ¬ schema.IsStruct first.type struct)
  | destination (noStruct : ∀ struct, ¬ schema.IsStruct request.method.result struct)
  /-- A directive names a member that the destination does not have. -/
  | target (struct : StructType) (isStruct : schema.IsStruct request.method.result struct)
      (target : String × Location) (given : target ∈ request.directives.targets)
      (stray : ∀ member ∈ struct.members, member.name ≠ target.1)
  | unknownEnum (pair : MapEnum) (given : pair ∈ request.directives.enums) (id : TypeId)
      (isSide : id ∈ [pair.source, pair.destination]) (unknown : schema.get? id = none)
  | structPair (pair : MapEnum) (given : pair ∈ request.directives.enums) (id : TypeId)
      (isSide : id ∈ [pair.source, pair.destination]) (struct : StructType)
      (isStruct : schema.IsStruct (.named id) struct)

namespace Schema

variable {schema : Schema}

/-- What has no variants is unknown or a struct. -/
theorem variants?_none (id : TypeId) : schema.variants? id = none ↔
    schema.get? id = none ∨ ∃ struct, schema.IsStruct (.named id) struct := by
  unfold variants? IsStruct
  cases found : schema.get? id with
  | none => simp
  | some descriptor => cases kind : descriptor.kind <;> simp [TypeDescriptor.variants?, kind, found]

end Schema

variable {request : Request} {schema : Schema}

/-- A task is not made of a malformed request. -/
theorem MappingTask.IsFor.not_isMalformed {task : MappingTask} (isFor : task.IsFor request schema) :
    ¬ request.IsMalformed schema := by
  obtain ⟨sourceId, others, params, sourceFound, sourceKind⟩ := isFor.source
  obtain ⟨destinationId, result, destinationFound, destinationKind⟩ := isFor.destination
  have isEnum : ∀ pair ∈ request.directives.enums, ∀ id ∈ [pair.source, pair.destination],
      schema.variants? id ≠ none := by
    intro pair given id isSide
    obtain ⟨⟨_, ofSource⟩, _, ofDestination⟩ := isFor.enums pair given
    obtain rfl | isDestination := List.mem_cons.mp isSide
    · simp [ofSource]
    · simp [List.mem_singleton.mp isDestination, ofDestination]
  intro malformed
  cases malformed with
  | noParameter none =>
      rw [params] at none
      cases none
  | source first _ given noStruct =>
      rw [params] at given
      cases given
      exact noStruct _ ⟨sourceId, task.source, rfl, sourceFound, sourceKind⟩
  | destination noStruct =>
      exact noStruct _ ⟨destinationId, task.destination, result, destinationFound, destinationKind⟩
  | target struct isStruct target given stray =>
      obtain ⟨id, descriptor, otherResult, otherFound, otherKind⟩ := isStruct
      rw [result] at otherResult
      cases otherResult
      rw [destinationFound] at otherFound
      cases otherFound
      rw [destinationKind] at otherKind
      cases otherKind
      obtain ⟨member, found⟩ := Option.isSome_iff_exists.mp (isFor.targets target given)
      obtain ⟨present, named⟩ := StructType.mem_of_member? found
      exact stray member present named
  | unknownEnum pair given id isSide unknown =>
      exact isEnum pair given id isSide ((Schema.variants?_none id).mpr (.inl unknown))
  | structPair pair given id isSide struct isStruct =>
      exact isEnum pair given id isSide ((Schema.variants?_none id).mpr (.inr ⟨struct, isStruct⟩))

/-- A request that is not malformed makes a task. -/
theorem Request.exists_isFor (wellFormed : ¬ request.IsMalformed schema) :
    ∃ task : MappingTask, task.IsFor request schema := by
  have someParameter : request.method.params ≠ [] := fun none => wellFormed (.noParameter none)
  obtain ⟨⟨name, type⟩, others, params⟩ := List.exists_cons_of_ne_nil someParameter
  have sourceStruct : ∃ struct, schema.IsStruct type struct := by
    by_contra noStruct
    exact wellFormed (.source _ others params (not_exists.mp noStruct))
  have destinationStruct : ∃ struct, schema.IsStruct request.method.result struct := by
    by_contra noStruct
    exact wellFormed (.destination (not_exists.mp noStruct))
  obtain ⟨source, sourceId, sourceDescriptor, rfl, sourceFound, sourceKind⟩ := sourceStruct
  obtain ⟨destination, destinationId, descriptor, result, found, kind⟩ := destinationStruct
  refine ⟨⟨schema, request, sourceDescriptor, source, descriptor, destination, name⟩, rfl, rfl,
    ⟨sourceId, others, params, sourceFound, sourceKind⟩, ⟨destinationId, result, found, kind⟩, ?targets, ?enums⟩
  case targets =>
    intro target given
    by_contra unnamed
    refine wellFormed (.target destination ⟨destinationId, descriptor, result, found, kind⟩ target given ?_)
    rw [Option.not_isSome_iff_eq_none, StructType.member?_eq] at unnamed
    simpa using List.find?_eq_none.mp unnamed
  case enums =>
    intro pair given
    have isEnum : ∀ id ∈ [pair.source, pair.destination], ∃ variants, schema.variants? id = some variants := by
      intro id isSide
      rw [← Option.ne_none_iff_exists']
      intro noVariants
      obtain unknown | ⟨struct, isStruct⟩ := (Schema.variants?_none id).mp noVariants
      · exact wellFormed (.unknownEnum pair given id isSide unknown)
      · exact wellFormed (.structPair pair given id isSide struct isStruct)
    exact ⟨isEnum _ (.head _), isEnum _ (.tail _ (.head _))⟩

/-- A request is resolved unless it is malformed. -/
theorem Request.resolve_succeeds (request : Request) (schema : Schema) :
    (∃ resolution, request.resolve schema = .ok resolution) ↔ ¬ request.IsMalformed schema := by
  constructor
  · rintro ⟨resolution, resolved⟩
    obtain ⟨task, accepted, _⟩ := (request.resolve_ok schema resolution).mp resolved
    exact (request.toTask_ok schema task accepted).not_isMalformed
  · intro wellFormed
    obtain ⟨task, isFor⟩ := Request.exists_isFor wellFormed
    exact ⟨task.resolve, (request.resolve_ok schema _).mpr ⟨task, isFor.toTask, rfl⟩⟩

/-- Resolution against a built schema runs to its end, and it is the malformed requests that it refuses. -/
theorem Request.resolve_refuses (draft : SchemaDraft) (schema : Schema) (request : Request)
    (built : draft.build = .ok schema) :
    (Strict.resolve request schema).run = .ok (request.resolve schema) ∧
      ((∃ fault, request.resolve schema = .error fault) ↔ request.IsMalformed schema) ∧
      ((∃ resolution, request.resolve schema = .ok resolution) ↔ ¬ request.IsMalformed schema) := by
  have succeeds := request.resolve_succeeds schema
  refine ⟨request.resolve_strict draft schema built, ?_, succeeds⟩
  rw [← not_iff_not, ← succeeds]
  cases request.resolve schema <;> simp

/-- Orders are mapped to their summaries, and no look-up on the way comes to nothing. -/
theorem orderRequest_refuses :
    SchemaDraft.orderDraft.build = .ok SchemaDraft.orderSchema ∧
      (∃ resolution, orderRequest.resolve SchemaDraft.orderSchema = .ok resolution) ∧
      (Strict.resolve orderRequest SchemaDraft.orderSchema).run =
        .ok (orderRequest.resolve SchemaDraft.orderSchema) ∧
      ((∃ fault, orderRequest.resolve SchemaDraft.orderSchema = .error fault) ↔
        orderRequest.IsMalformed SchemaDraft.orderSchema) ∧
      ((∃ resolution, orderRequest.resolve SchemaDraft.orderSchema = .ok resolution) ↔
        ¬ orderRequest.IsMalformed SchemaDraft.orderSchema) :=
  ⟨SchemaDraft.orderDraft_build, ⟨_, rfl⟩, Request.resolve_refuses SchemaDraft.orderDraft SchemaDraft.orderSchema
    orderRequest SchemaDraft.orderDraft_build⟩

/-- A schema that was not built can lack the type of an element, for which there is no name then. -/
example :
    let items (kind : CollectionKind) : List Member :=
      [⟨.accessible "items" (.collection kind (.named ⟨9⟩)) .field, ⟨0⟩, 0, false⟩]
    let schema : Schema :=
      ⟨[⟨⟨0⟩, "Cart", .struct ⟨none, items .vec, [.literal]⟩⟩,
        ⟨⟨1⟩, "Order", .struct ⟨none, items .boxedSlice, [.literal]⟩⟩]⟩
    let request : Request :=
      ⟨"CartMapper", ⟨"to_order", [⟨"cart", .named ⟨0⟩⟩], .named ⟨1⟩, ⟨1, 0⟩⟩, .none, []⟩
    (Strict.resolve request schema).run = .error (.type ⟨9⟩) :=
  rfl

end ObjectMapping
