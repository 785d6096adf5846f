/-
This file states what is known of a request that has been accepted: both sides are structs of the schema,
and its directives name members of the destination and enums.
-/

import ObjectMapping.Proofs.Fallible
import ObjectMapping.Request

namespace ObjectMapping

namespace Schema

/-- A type that has to be a struct is one of the schema. -/
theorem expectStruct_ok (schema : Schema) (id : TypeId) (descriptor : TypeDescriptor)
    (type : StructType) :
    schema.expectStruct id = .ok (descriptor, type) ↔
      schema.get? id = some descriptor ∧ descriptor.kind = .struct type := by
  unfold expectStruct
  cases found : schema.get? id with
  | none => simp
  | some present =>
      cases kind : present.kind with
      | struct body =>
          simp only [kind, Except.ok.injEq, Prod.mk.injEq, Option.some.injEq]
          constructor
          · rintro ⟨same, sameBody⟩
            exact ⟨same, by rw [← same, kind, sameBody]⟩
          · rintro ⟨same, isStruct⟩
            rw [← same, kind] at isStruct
            exact ⟨same, TypeKind.struct.inj isStruct⟩
      | «enum» variants =>
          simp only [kind, reduceCtorEq, false_iff, Option.some.injEq, not_and]
          intro same
          rw [← same, kind]
          simp

end Schema

namespace Request

/-- A struct that a request expects is one of the schema. -/
theorem expectStruct_ok (request : Request) (schema : Schema) (side : String) (id : TypeId)
    (found : TypeDescriptor × StructType) :
    request.expectStruct schema side id = .ok found ↔ schema.expectStruct id = .ok found := by
  unfold expectStruct
  cases schema.expectStruct id <;> simp

/-- The source of an accepted request is its first parameter. -/
theorem sourceParam_ok (request : Request) (name : String) (id : TypeId) :
    request.sourceParam = .ok (name, id) ↔
      ∃ others, request.method.params = ⟨name, .named id⟩ :: others := by
  unfold sourceParam
  split <;> simp_all

/-- The destination of an accepted request is the result of its method. -/
theorem destinationType_ok (request : Request) (id : TypeId) :
    request.destinationType = .ok id ↔ request.method.result = .named id := by
  unfold destinationType
  split <;> simp_all

/-- An id without a fault is that of an enum. -/
theorem enumFault?_none (request : Request) (schema : Schema) (id : TypeId) :
    request.enumFault? schema id = none ↔ ∃ variants, schema.variants? id = some variants := by
  unfold enumFault? Schema.variants? TypeDescriptor.variants?
  cases schema.get? id with
  | none => simp
  | some descriptor => cases kind : descriptor.kind <;> simp [kind]

end Request

/-- What holds of the task that an accepted request becomes. -/
structure MappingTask.IsFor (task : MappingTask) (request : Request) (schema : Schema) : Prop where
  sameSchema : task.schema = schema
  sameRequest : task.request = request
  source : ∃ id others, request.method.params = ⟨task.sourceParam, .named id⟩ :: others ∧
    schema.get? id = some task.source ∧ task.source.kind = .struct task.sourceStruct
  destination : ∃ id, request.method.result = .named id ∧
    schema.get? id = some task.destination ∧ task.destination.kind = .struct task.destinationStruct
  targets : ∀ target ∈ request.directives.targets, (task.destinationStruct.member? target.1).isSome
  enums : ∀ pair ∈ request.directives.enums,
    (∃ variants, schema.variants? pair.source = some variants) ∧
      ∃ variants, schema.variants? pair.destination = some variants

/-- An accepted request becomes a task between its two structs. -/
theorem Request.toTask_ok (request : Request) (schema : Schema) (task : MappingTask)
    (accepted : request.toTask schema = .ok task) : task.IsFor request schema := by
  simp only [toTask, bind_ok] at accepted
  obtain ⟨⟨name, sourceId⟩, sourceFound, ⟨source, sourceStruct⟩, sourceExpected, destinationId,
    destinationFound, ⟨destination, destinationStruct⟩, destinationExpected, checked⟩ := accepted
  rw [expectStruct_ok, Schema.expectStruct_ok] at sourceExpected destinationExpected
  rw [sourceParam_ok] at sourceFound
  rw [destinationType_ok] at destinationFound
  cases stray : request.directives.targets.find? fun target =>
      (destinationStruct.member? target.1).isNone with
  | some target => simp [stray] at checked
  | none =>
      cases fault : (request.directives.enums.flatMap fun pair =>
          [pair.source, pair.destination]).findSome? (request.enumFault? schema) with
      | some found => simp [stray, fault] at checked
      | none =>
          simp only [stray, fault, Except.ok.injEq] at checked
          rw [← checked]
          obtain ⟨others, params⟩ := sourceFound
          refine ⟨rfl, rfl, ⟨sourceId, others, params, sourceExpected⟩,
            ⟨destinationId, destinationFound, destinationExpected⟩, ?_, ?_⟩
          · intro target present
            have known := List.find?_eq_none.mp stray target present
            simpa [Option.isSome_iff_ne_none] using known
          · intro pair present
            have faultless := List.findSome?_eq_none_iff.mp fault
            constructor
            · exact (request.enumFault?_none schema _).mp
                (faultless pair.source (List.mem_flatMap.mpr ⟨pair, present, by simp⟩))
            · exact (request.enumFault?_none schema _).mp
                (faultless pair.destination (List.mem_flatMap.mpr ⟨pair, present, by simp⟩))

/-- Nothing else is asked of a request: it becomes any task that fits it. -/
theorem MappingTask.IsFor.toTask {task : MappingTask} {request : Request} {schema : Schema}
    (isFor : task.IsFor request schema) : request.toTask schema = .ok task := by
  obtain ⟨sourceId, others, params, sourceFound⟩ := isFor.source
  obtain ⟨destinationId, result, destinationFound⟩ := isFor.destination
  have stray : request.directives.targets.find? (fun target =>
      (task.destinationStruct.member? target.1).isNone) = none := by
    rw [List.find?_eq_none]
    intro target present
    simpa [Option.isSome_iff_ne_none] using isFor.targets target present
  have fault : (request.directives.enums.flatMap fun pair =>
      [pair.source, pair.destination]).findSome? (request.enumFault? schema) = none := by
    rw [List.findSome?_eq_none_iff]
    intro id present
    obtain ⟨pair, isPair, isSide⟩ := List.mem_flatMap.mp present
    obtain ⟨ofSource, ofDestination⟩ := isFor.enums pair isPair
    rw [request.enumFault?_none]
    obtain rfl | isDestination := List.mem_cons.mp isSide
    · exact ofSource
    · rw [List.mem_singleton.mp isDestination]
      exact ofDestination
  simp only [Request.toTask, bind_ok]
  refine ⟨_, (request.sourceParam_ok _ _).mpr ⟨others, params⟩, (task.source, task.sourceStruct), ?_,
    destinationId, (request.destinationType_ok _).mpr result, (task.destination, task.destinationStruct), ?_, ?_⟩
  · rw [Request.expectStruct_ok, Schema.expectStruct_ok]
    exact sourceFound
  · rw [Request.expectStruct_ok, Schema.expectStruct_ok]
    exact destinationFound
  · simp only [stray, fault]
    rw [← isFor.sameSchema, ← isFor.sameRequest]

/-- Maps orders to summaries: the label is left out, and the enums are paired. -/
def orderRequest : Request where
  mapper := "OrderMapper"
  method := ⟨"summarize", [⟨"order", .named ⟨2⟩⟩], .named ⟨3⟩, ⟨3, 4⟩⟩
  directives := ⟨[], [⟨"label", ⟨9, 8⟩⟩], [], none, [⟨⟨0⟩, ⟨1⟩, ⟨10, 8⟩⟩]⟩
  delegates := []

/-- Maps customers, given the identifier of their tenant. -/
def customerMapper : IncludedMapper where
  name := "CustomerMapper"
  field := "customer_mapper"
  methods := [⟨"to_dto", [.named ⟨2⟩, .scalar .i64], .named ⟨3⟩⟩]

/-- Maps invoices to what is shown of them for a tenant, and no customers. -/
def invoiceRequest : Request where
  mapper := "InvoiceMapper"
  method := ⟨"to_dto", [⟨"invoice", .named ⟨4⟩⟩, ⟨"tenant", .foreign "Tenant"⟩], .named ⟨5⟩, ⟨7, 4⟩⟩
  directives := .none
  delegates := []

end ObjectMapping
