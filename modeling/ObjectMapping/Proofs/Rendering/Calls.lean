/-
This file proves how generated code calls included mappers: the value that is handed over is lent, and behind it
stand the names of further parameters of the mapping method.
-/

import ObjectMapping.Proofs.Rendering.Parts
import ObjectMapping.Proofs.Resolution.Forwarding

namespace ObjectMapping

namespace Rendering

/-- A call of an included mapper in generated code. -/
structure DelegatedCall where
  /-- The names around the call that are bound to elements as `iter` lends them. -/
  lent : List String
  field : String
  method : String
  arguments : List Value

namespace Value

mutual

/-- The calls of included mappers in a value, at any depth. -/
def calls (lent : List String) : Value → List DelegatedCall
  | .place _ _ _ | .variable _ | .written _ => []
  | .dereferenced value | .cloned value | .owned value | .borrowed value | .borrowedResult value
  | .widened value _ | .some value | .converted _ value => value.calls lent
  | .delegated field method arguments => ⟨lent, field, method, arguments⟩ :: allCalls lent arguments
  | .collected source binder transform _ => source.calls lent ++ transform.calls (binder :: lent)
  -- What `into_iter` binds hides an element of that name that is lent.
  | .collectedWritten _ binder transform _ => transform.calls (lent.filter (· != binder))

def allCalls (lent : List String) : List Value → List DelegatedCall
  | [] => []
  | value :: rest => value.calls lent ++ allCalls lent rest

end

theorem allCalls_variables (lent : List String) (names : List String) :
    allCalls lent (names.map Value.variable) = [] := by
  induction names with
  | nil => rw [List.map_nil, allCalls]
  | cons name rest inductionHypothesis => rw [List.map_cons, allCalls, calls, inductionHypothesis, List.nil_append]

end Value

/-- The calls of included mappers in a body. -/
def Body.calls (body : Body) : List DelegatedCall := body.values.flatMap (·.calls [])

namespace Scope

section

variable (scope : Scope)

/-- A value is lent: a borrow, what a getter of the owner lends, or an element that `iter` lends. -/
inductive Lends (owner : String) (lent : List String) : Value → Prop
  | borrowed (value : Value) : Lends owner lent (.borrowed value)
  | borrowedResult (value : Value) : Lends owner lent (.borrowedResult value)
  | getter (member : String) (isLent : scope.isLent owner member = true) :
      Lends owner lent (.place owner member .property)
  | element (name : String) (bound : name ∈ lent) : Lends owner lent (.variable name)

/-- The first argument of the call is lent, and parameters are handed on by their names. -/
structure HandsOn (owner : String) (exprs : List Expr) (call : DelegatedCall) : Prop where
  count : call.arguments.length = exprs.length
  first : ∃ value, call.arguments.head? = some value ∧ scope.Lends owner call.lent value
  further : ∀ (index : Nat) (name : String), exprs[index]? = some (Expr.param name) →
    call.arguments[index]? = some (Value.variable name)

/-- The expression can be lent to a mapper where these names are bound to what is lent. -/
structure CanLend (owner : String) (lent : List String) (expr : Expr) : Prop where
  noCalls : ∀ value, scope.value expr = .ok value → value.calls lent = []
  lends : ∀ value, scope.Lends owner lent (scope.borrow expr value)
  borrowNoCalls : ∀ value, (scope.borrow expr value).calls lent = []

end

variable {scope : Scope}

theorem readMember_noCalls (owner name : String) (kind : MemberKind) (type : TypeRef) (lent : List String) :
    (scope.readMember owner name kind type).calls lent = [] := by
  unfold readMember
  dsimp only
  split
  · split <;> simp only [Value.calls]
  · split
    · simp only [Value.calls]
    · split <;> simp only [Value.calls]

theorem member_canLend (owner name : String) (kind : MemberKind) (type : TypeRef) (lent : List String) :
    scope.CanLend owner lent (.member owner name kind type) := by
  refine ⟨fun value made => ?noCalls, fun _ => ?lends, fun _ => ?borrowNoCalls⟩
  case noCalls =>
    obtain ⟨_, _, rfl⟩ := scope.value_member made
    exact readMember_noCalls owner name kind type lent
  case lends =>
    unfold borrow
    dsimp only
    split
    · next lends =>
        rw [Bool.and_eq_true, beq_iff_eq] at lends
        obtain ⟨rfl, isLent⟩ := lends
        exact .getter name isLent
    · exact .borrowed _
  case borrowNoCalls =>
    unfold borrow
    dsimp only
    split <;> simp only [Value.calls]

theorem item_canLend (owner name : String) (type : TypeRef) {lent : List String} (bound : name ∈ lent) :
    scope.CanLend owner lent (.item name type) := by
  refine ⟨fun value made => ?_, fun _ => .element name bound, fun _ => by rw [borrow, Value.calls]⟩
  obtain ⟨_, rfl⟩ := scope.value_item made
  split <;> simp only [Value.calls]

/-- The values of parameters are the parameters. -/
theorem values_params {names : List String} {values : List Value}
    (made : scope.values (names.map Expr.param) = .ok values) : values = names.map Value.variable := by
  induction names generalizing values with
  | nil =>
      rw [List.map_nil, Scope.values] at made
      exact (Except.ok.inj made).symm
  | cons name rest inductionHypothesis =>
      rw [List.map_cons] at made
      obtain ⟨first, others, isFirst, areOthers, rfl⟩ := scope.values_cons made
      rw [(scope.value_param isFirst).2, inductionHypothesis areOthers, List.map_cons]

/-- A call of a mapper borrows the value that it is handed and names the parameters that are handed on. -/
theorem delegate_value {field method : String} {expr : Expr} {names : List String} {value : Value}
    (made : scope.value (.delegate field method (expr :: names.map Expr.param)) = .ok value) :
    ∃ first, value = .delegated field method (scope.borrow expr first :: names.map Value.variable) := by
  obtain ⟨_, _, arguments, areArguments, rfl⟩ := scope.value_delegate made
  obtain ⟨first, others, _, areOthers, rfl⟩ := scope.values_cons areArguments
  rw [values_params areOthers]
  exact ⟨first, rfl⟩

/-- What can be lent is handed on in front of parameters. -/
theorem CanLend.handsOn {owner : String} {lent : List String} {expr : Expr} {type : TypeRef}
    (canLend : scope.CanLend owner lent expr) (isRead : expr.readType? = some type) (names : List String)
    (field method : String) (first : Value) : scope.HandsOn owner (expr :: names.map Expr.param)
      ⟨lent, field, method, scope.borrow expr first :: names.map Value.variable⟩ := by
  refine ⟨by simp, ⟨_, rfl, canLend.lends first⟩, fun index name isParam => ?_⟩
  cases index with
  | zero =>
      obtain rfl : expr = .param name := Option.some.inj isParam
      cases isRead
  | succ index =>
      rw [List.getElem?_cons_succ, List.getElem?_map] at isParam ⊢
      obtain ⟨found, isFound, same⟩ := Option.map_eq_some_iff.mp isParam
      cases same
      rw [isFound, Option.map_some]

end Scope

end Rendering

namespace MappingTask

open Rendering

variable {task : MappingTask} {scope : Scope}

/-- Every call in the value is one of a method of an included mapper, to which its arguments are handed on. -/
def HandsOn (task : MappingTask) (scope : Scope) (lent : List String) (value : Value) : Prop :=
  ∀ call ∈ value.calls lent, ∃ exprs,
    task.request.CallsMethod (.delegate call.field call.method exprs) ∧ scope.HandsOn task.sourceParam exprs call

theorem handsOn_of_noCalls {lent : List String} {value : Value} (noCalls : value.calls lent = []) :
    task.HandsOn scope lent value := by
  intro call present
  rw [noCalls] at present
  cases present

theorem delegateCall_handsOn {lent : List String} {delegation : Delegation} {source destination : TypeRef}
    (takes : delegation.Takes task.request.delegates task.params.length source destination) {expr : Expr}
    (isRead : expr.readType? = some source) (canLend : scope.CanLend task.sourceParam lent expr) {value : Value}
    (made : scope.value (task.delegateCall delegation expr) = .ok value) : task.HandsOn scope lent value := by
  have calls := delegateCall_callsMethod takes isRead
  unfold delegateCall at made calls
  dsimp only at made calls
  generalize (task.params.take delegation.method.params.length).drop 1 = names at made calls
  obtain ⟨first, rfl⟩ := Scope.delegate_value made
  intro call present
  rw [Value.calls, Value.allCalls, canLend.borrowNoCalls, Value.allCalls_variables, List.nil_append,
    List.mem_singleton] at present
  subst present
  exact ⟨_, calls, canLend.handsOn isRead names _ _ first⟩

/-- Converting a value that can be lent makes no call but of the kind. -/
theorem SingleRule.handsOn {lent : List String} {expr result : Expr} {source destination : TypeRef}
    (rule : task.SingleRule expr source destination result) (isRead : expr.readType? = some source)
    (canLend : scope.CanLend task.sourceParam lent expr) {value : Value} (made : scope.value result = .ok value) :
    task.HandsOn scope lent value := by
  cases rule with
  | exact => exact handsOn_of_noCalls (canLend.noCalls value made)
  | enum key function =>
      obtain ⟨_, inner, _, rfl⟩ := scope.value_enumConvert made
      exact handsOn_of_noCalls (canLend.borrowNoCalls inner)
  | implicit conversion =>
      refine handsOn_of_noCalls ?_
      cases conversion with
      | widen =>
          obtain ⟨inner, isInner, rfl⟩ := scope.value_widen made
          exact canLend.noCalls inner isInner
      | wrap =>
          obtain ⟨inner, isInner, rfl⟩ := scope.value_some made
          exact canLend.noCalls inner isInner
      | widenAndWrap target =>
          obtain ⟨widened, isWidened, rfl⟩ := scope.value_some made
          obtain ⟨inner, isInner, rfl⟩ := scope.value_widen isWidened
          exact canLend.noCalls inner isInner
  | delegated _ _ _ takes => exact delegateCall_handsOn takes isRead canLend made

/-- A collection that is read in place makes the calls that its transform makes with the element lent. -/
theorem collect_handsOn {member : Member} {binder : String} {transform : Expr} {target : CollectionKind}
    (each : ∀ value, scope.value transform = .ok value → task.HandsOn scope [binder] value) {value : Value}
    (made : scope.value (.collect (task.read member) binder transform target) = .ok value) :
    task.HandsOn scope [] value := by
  obtain ⟨_, source, element, _, isElement, rfl⟩ := scope.value_collect made
  intro call present
  rw [Value.calls, read, Scope.sourcePlace, Value.calls, List.nil_append] at present
  exact each element isElement call present

theorem verbatim_noCalls {written : String} {value : Value} (made : scope.value (.verbatim written) = .ok value)
    (lent : List String) : value.calls lent = [] := by
  obtain ⟨tokens, rfl⟩ := scope.value_verbatim made
  rw [Value.calls]

theorem UserRule.handsOn {destination : TypeRef} {expr : Expr} (rule : task.UserRule destination expr) {value : Value}
    (made : scope.value expr = .ok value) : task.HandsOn scope [] value := by
  cases rule with
  | written text => exact handsOn_of_noCalls (verbatim_noCalls made [])
  | collected => exact collect_handsOn (fun _ isElement => handsOn_of_noCalls (verbatim_noCalls isElement _)) made
  | collectedWritten =>
      obtain ⟨_, tokens, element, isElement, rfl⟩ := scope.value_collectVerbatim made
      exact handsOn_of_noCalls (by rw [Value.calls, verbatim_noCalls isElement])

/-- In whatever way a value of a plan comes about, the calls in its rendering are of the kind. -/
theorem ValueRule.handsOn {destination : TypeRef} {expr : Expr} (rule : task.ValueRule destination expr) {value : Value}
    (made : scope.value expr = .ok value) : task.HandsOn scope [] value := by
  cases rule with
  | given _ rule => exact rule.handsOn made
  | converted member _ _ _ rule =>
      have canLend : scope.CanLend task.sourceParam [] (task.read member) :=
        Scope.member_canLend _ _ _ _ []
      generalize type : member.type = source at rule
      have isRead : (task.read member).readType? = some source := congrArg some type
      cases rule with
      | single _ _ _ rule => exact rule.handsOn isRead canLend made
      | elements _ _ source _ _ each =>
          refine collect_handsOn (fun _ isElement => each.handsOn rfl ?_ isElement) made
          exact Scope.item_canLend _ _ _ List.mem_cons_self

/-- Whatever call stands in a body that carries out a plan, it hands its arguments on. -/
theorem carriesOut_handsOn {call : ConstructorPlan} {destination : TypeDescriptor × StructType} {body : Body}
    (carries : scope.CarriesOut task.resolve.plan call destination body) :
    ∀ delegated ∈ body.calls, ∃ exprs,
      task.request.CallsMethod (.delegate delegated.field delegated.method exprs) ∧
        scope.HandsOn task.sourceParam exprs delegated := by
  intro delegated present
  obtain ⟨value, isValue, inValue⟩ := List.mem_flatMap.mp present
  obtain ⟨expr, isPlanned, made⟩ : ∃ expr ∈ task.resolve.plan.values, scope.value expr = .ok value := by
    obtain created | written := List.mem_append.mp isValue
    · exact carries.created value created
    · obtain ⟨write, isWrite, rfl⟩ := List.mem_map.mp written
      obtain ⟨assignment, isAssignment, _, _, made⟩ := carries.writes write isWrite
      exact ⟨assignment.expr, List.mem_append_right _ (List.mem_map_of_mem isAssignment), made⟩
  obtain ⟨type, rule⟩ := task.resolve_values expr isPlanned
  exact rule.handsOn made delegated inValue

end MappingTask

end ObjectMapping
