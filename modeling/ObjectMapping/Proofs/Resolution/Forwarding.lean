/-
This file proves how a plan calls included mappers: the value comes first, and the further parameters of the
mapping method follow in their order, as many as the called method takes.
-/

import ObjectMapping.Proofs.Resolution.Parts

namespace ObjectMapping

/-- The arguments of a call in a mapping method with the given parameters: what reads a value of the type
that the called method takes first, then the parameters at the places of the others. -/
structure DelegateMethod.IsCalled (method : DelegateMethod) (params : List Parameter)
    (arguments : List Expr) : Prop where
  count : arguments.length = method.params.length
  first : ∃ value type, arguments.head? = some value ∧ value.readType? = some type ∧
    method.params.head? = some type
  further : ∀ index, 0 < index → index < method.params.length → ∃ parameter,
    params[index]? = some parameter ∧ arguments[index]? = some (.param parameter.name)

/-- A call of an included mapper is one of a method of that mapper. -/
def Request.CallsMethod (request : Request) : Expr → Prop
  | .delegate mapper method arguments => ∃ included ∈ request.delegates, ∃ called ∈ included.methods,
      included.field = mapper ∧ called.name = method ∧ called.IsCalled request.method.params arguments
  | _ => True

/-- So is every call in the expression. -/
def Request.CallsMethods (request : Request) (expr : Expr) : Prop :=
  ∀ part ∈ expr.parts, request.CallsMethod part

namespace MappingTask

variable {task : MappingTask}

theorem delegateCall_callsMethod {delegation : Delegation} {source destination : TypeRef}
    (takes : delegation.Takes task.request.delegates task.params.length source destination) {value : Expr}
    (isRead : value.readType? = some source) :
    task.request.CallsMethod (task.delegateCall delegation value) := by
  have fits := takes.fits
  have nonempty : 0 < delegation.method.params.length := by
    obtain ⟨_, same⟩ := List.head?_eq_some_iff.mp takes.first
    simp [same]
  refine ⟨delegation.mapper, takes.included, delegation.method, takes.method, rfl, rfl,
    ?count, ⟨value, source, rfl, isRead, takes.first⟩, ?further⟩
  case count =>
    simp only [List.length_cons, List.length_map, List.length_drop, List.length_take]
    omega
  case further =>
    intro index positive inRange
    have present : index < task.request.method.params.length := by
      simpa [params, Request.paramNames] using Nat.lt_of_lt_of_le inRange fits
    refine ⟨_, List.getElem?_eq_getElem present, ?_⟩
    cases index with
    | zero => cases positive
    | succ before => simp [params, Request.paramNames, inRange, present]

theorem IsMade.callsMethod {part : Expr} (made : task.IsMade part) : task.request.CallsMethod part := by
  cases part with
  | delegate mapper method arguments =>
      obtain ⟨delegation, source, destination, value, takes, isRead, same⟩ := made
      rw [same]
      exact delegateCall_callsMethod takes isRead
  | _ => trivial

/-- Every value of a plan does so, in whatever way it comes about. -/
theorem ValueRule.callsMethods {destination : TypeRef} {value : Expr}
    (rule : task.ValueRule destination value) : task.request.CallsMethods value :=
  fun part inside => (rule.makesParts part inside).callsMethod

end MappingTask

/-- Every call of an included mapper in a plan hands over to a method of it a value of the type that the
method takes first and, for each further parameter of the method, the one at its place in the mapping method. -/
theorem Request.resolve_forwards (schema : Schema) (request : Request) (resolution : Resolution)
    (resolved : request.resolve schema = .ok resolution) (value : Expr)
    (isValue : value ∈ resolution.plan.values) (mapper method : String) (arguments : List Expr)
    (call : .delegate mapper method arguments ∈ value.parts) :
    ∃ included ∈ request.delegates, ∃ called ∈ included.methods, included.field = mapper ∧
      called.name = method ∧ called.IsCalled request.method.params arguments := by
  obtain ⟨task, accepted, rfl⟩ := (request.resolve_ok schema resolution).mp resolved
  obtain ⟨destination, rule⟩ := task.resolve_values value isValue
  have calls := rule.callsMethods _ call
  rwa [(request.toTask_ok schema task accepted).sameRequest] at calls

/-- The customer of an invoice is handed over to the mapper of customers, with the tenant behind it. -/
theorem invoiceRequest_forwards :
    ∃ resolution, { invoiceRequest with delegates := [customerMapper] }.resolve SchemaDraft.invoiceSchema =
        .ok resolution ∧
      ∃ customer, .delegate "customer_mapper" "to_dto" [customer, .param "tenant"] ∈ resolution.plan.values ∧
        ∃ included ∈ [customerMapper], ∃ called ∈ included.methods,
          included.field = "customer_mapper" ∧ called.name = "to_dto" ∧
            called.IsCalled invoiceRequest.method.params [customer, .param "tenant"] :=
  ⟨_, rfl, _, .tail _ (.head _), Request.resolve_forwards SchemaDraft.invoiceSchema
    { invoiceRequest with delegates := [customerMapper] } _ rfl _ (.tail _ (.head _)) _ _ _ (.head _)⟩

/-- The types of the further parameters are not compared: the mapper of customers is called with the tenant
where it takes an identifier. -/
theorem Request.resolve_forwards_otherType :
    ¬∀ (draft : SchemaDraft) (schema : Schema) (request : Request) (resolution : Resolution),
      draft.build = .ok schema → request.resolve schema = .ok resolution →
      ∀ value ∈ resolution.plan.values, ∀ mapper method arguments,
        .delegate mapper method arguments ∈ value.parts →
        ∃ included ∈ request.delegates, ∃ called ∈ included.methods, included.field = mapper ∧
          called.name = method ∧ called.IsCalled request.method.params arguments ∧
          ∀ index, 0 < index → index < called.params.length →
            (request.method.params[index]?).map (·.type) = called.params[index]? := by
  intro typed
  obtain ⟨included, isIncluded, called, isOffered, _, _, _, sameTypes⟩ :=
    typed SchemaDraft.invoiceDraft SchemaDraft.invoiceSchema
      { invoiceRequest with delegates := [customerMapper] } _ SchemaDraft.invoiceDraft_build rfl
      _ (.tail _ (.head _)) _ _ _ (.head _)
  obtain rfl : included = customerMapper := List.mem_singleton.mp isIncluded
  obtain rfl := List.mem_singleton.mp isOffered
  cases sameTypes 1 (by decide) (by decide)

end ObjectMapping
