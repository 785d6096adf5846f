/-
This file proves where what stands in the body of a mapping method comes from: each place and each call in it
renders a read or a call in the plan, and each write an assignment.
-/

import ObjectMapping.Proofs.Rendering.Value
import ObjectMapping.Proofs.Resolution.Parts
import ObjectMapping.Rendering.Body

namespace ObjectMapping.Rendering

namespace Value

mutual

/-- The values that a value is made of, at any depth. -/
def inside : Value → List Value
  | .place _ _ _ | .variable _ | .written _ => []
  | .dereferenced value | .cloned value | .owned value | .borrowed value | .borrowedResult value
  | .widened value _ | .some value | .converted _ value => value :: value.inside
  | .delegated _ _ arguments => allParts arguments
  | .collected source _ transform _ => source :: source.inside ++ transform :: transform.inside
  | .collectedWritten _ _ transform _ => transform :: transform.inside

def allParts : List Value → List Value
  | [] => []
  | value :: rest => value :: value.inside ++ allParts rest

end

/-- The value itself and those that it is made of. -/
def parts (value : Value) : List Value := value :: value.inside

/-- A place stands for a read among the expressions, and a call of an included mapper for such a call. -/
def IsFrom (exprs : List Expr) : Value → Prop
  | .place owner member kind => ∃ type, .member owner member kind type ∈ exprs
  | .delegated field method _ => ∃ arguments, .delegate field method arguments ∈ exprs
  | _ => True

theorem IsFrom.mono {value : Value} {exprs others : List Expr} (isFrom : value.IsFrom exprs)
    (among : exprs ⊆ others) : value.IsFrom others := by
  cases value with
  | place owner member kind => exact isFrom.imp fun _ present => among present
  | delegated field method => exact isFrom.imp fun _ present => among present
  | _ => trivial

/-- Every place and every call in the value stands for one in the expression. -/
def Renders (value : Value) (expr : Expr) : Prop := ∀ part ∈ value.parts, part.IsFrom expr.parts

/-- What is made of a value without a new place renders what the value renders. -/
theorem Renders.wrap {value result : Value} {expr whole : Expr} (renders : value.Renders expr)
    (isFrom : result.IsFrom whole.parts) (within : expr.parts ⊆ whole.parts) (made : result.inside = value.parts) :
    result.Renders whole := by
  rw [Renders, parts, made]
  exact List.forall_mem_cons.mpr ⟨isFrom, fun part inside => (renders part inside).mono within⟩

theorem allParts_isFrom {exprs : List Expr} {values : List Value} (renders : List.Forall₂ Renders values exprs) :
    ∀ part ∈ allParts values, part.IsFrom (Expr.allParts exprs) := by
  induction renders with
  | nil => nofun
  | cons first _ inductionHypothesis =>
      intro part inside
      obtain ofFirst | ofOthers := List.mem_append.mp inside
      · exact (first part ofFirst).mono (List.subset_append_left _ _)
      · exact (inductionHypothesis part ofOthers).mono (List.subset_append_right _ _)

end Value

namespace Scope

variable (scope : Scope)

theorem place_renders (owner name : String) (kind : MemberKind) (type : TypeRef) :
    (Value.place owner name kind).Renders (.member owner name kind type) :=
  List.forall_mem_singleton.mpr ⟨type, List.mem_cons_self⟩

theorem variable_renders (name : String) (expr : Expr) : (Value.variable name).Renders expr :=
  List.forall_mem_singleton.mpr trivial

theorem readMember_renders (owner name : String) (kind : MemberKind) (type : TypeRef) :
    (scope.readMember owner name kind type).Renders (.member owner name kind type) := by
  have place := place_renders owner name kind type
  unfold readMember
  dsimp only
  split
  · split
    · exact place
    · exact place.wrap trivial (List.Subset.refl _) rfl
  · split
    · exact place
    · split <;> exact place.wrap trivial (List.Subset.refl _) rfl

theorem borrow_renders {expr : Expr} {value : Value} (renders : value.Renders expr) :
    (scope.borrow expr value).Renders expr := by
  unfold borrow
  split
  · next owner name kind type =>
      have place := place_renders owner name kind type
      dsimp only
      split
      · exact place
      · exact place.wrap trivial (List.Subset.refl _) rfl
  · exact variable_renders _ _
  · exact variable_renders _ _
  · exact renders.wrap trivial (List.Subset.refl _) rfl

theorem sourcePlace_renders {expr : Expr} {value : Value} (renders : value.Renders expr) :
    (sourcePlace expr value).Renders expr := by
  unfold sourcePlace
  split
  · exact place_renders _ _ _ _
  · exact renders

theorem delegateArguments_render {exprs : List Expr} {values : List Value}
    (renders : List.Forall₂ Value.Renders values exprs) :
    List.Forall₂ Value.Renders (scope.delegateArguments exprs values) exprs := by
  cases renders with
  | nil => exact .nil
  | cons first others => exact .cons (scope.borrow_renders first) others

mutual

/-- A value renders the expression that it is made from. -/
theorem value_renders : ∀ (expr : Expr) {value : Value}, scope.value expr = .ok value → value.Renders expr
  | .member owner name kind type, value, made => by
      obtain ⟨_, _, rfl⟩ := scope.value_member made
      exact scope.readMember_renders owner name kind type
  | .param name, value, made => by
      obtain ⟨_, rfl⟩ := scope.value_param made
      exact variable_renders _ _
  | .item name type, value, made => by
      obtain ⟨_, rfl⟩ := scope.value_item made
      have bound := variable_renders name (.item name type)
      split <;> exact bound.wrap trivial (List.Subset.refl _) rfl
  | .verbatim text, value, made => by
      obtain ⟨tokens, rfl⟩ := scope.value_verbatim made
      exact List.forall_mem_singleton.mpr trivial
  | .widen arg target, value, made => by
      obtain ⟨inner, isInner, rfl⟩ := scope.value_widen made
      exact (value_renders arg isInner).wrap trivial (List.subset_cons_self _ _) rfl
  | .some arg, value, made => by
      obtain ⟨inner, isInner, rfl⟩ := scope.value_some made
      exact (value_renders arg isInner).wrap trivial (List.subset_cons_self _ _) rfl
  | .enumConvert function arg, value, made => by
      obtain ⟨_, inner, isInner, rfl⟩ := scope.value_enumConvert made
      exact (scope.borrow_renders (value_renders arg isInner)).wrap trivial (List.subset_cons_self _ _) rfl
  | .delegate mapper method exprs, value, made => by
      obtain ⟨_, _, arguments, areArguments, rfl⟩ := scope.value_delegate made
      refine List.forall_mem_cons.mpr ⟨⟨exprs, List.mem_cons_self⟩, fun part inside => ?_⟩
      exact (Value.allParts_isFrom (scope.delegateArguments_render (values_render exprs areArguments)) part
        inside).mono (List.subset_cons_self _ _)
  | .collect source binder transform target, value, made => by
      obtain ⟨_, place, element, isPlace, isElement, rfl⟩ := scope.value_collect made
      refine List.forall_mem_cons.mpr
        ⟨trivial, List.forall_mem_append.mpr ⟨fun part inside => ?_, fun part inside => ?_⟩⟩
      · refine (sourcePlace_renders (value_renders source isPlace) part inside).mono ?_
        exact List.subset_cons_of_subset _ (List.subset_append_left _ _)
      · refine (value_renders transform isElement part inside).mono ?_
        exact List.subset_cons_of_subset _ (List.subset_append_right _ _)
  | .collectVerbatim source binder transform target, value, made => by
      obtain ⟨_, tokens, element, isElement, rfl⟩ := scope.value_collectVerbatim made
      exact (value_renders transform isElement).wrap trivial (List.subset_cons_self _ _) rfl

theorem values_render : ∀ (exprs : List Expr) {values : List Value}, scope.values exprs = .ok values →
    List.Forall₂ Value.Renders values exprs
  | [], values, made => by
      rw [Scope.values] at made
      cases made
      exact .nil
  | expr :: rest, values, made => by
      obtain ⟨first, others, isFirst, areOthers, rfl⟩ := scope.values_cons made
      exact .cons (value_renders expr isFirst) (values_render rest areOthers)

end

end Scope

/-- The values that the destination is created with. -/
def Creation.values : Creation → List Value
  | .literal _ fields => fields.filterMap (·.value)
  | .call _ _ arguments => arguments

namespace Write

def member : Write → String
  | .field member _ | .property member _ => member

def kind : Write → MemberKind
  | .field _ _ => .field
  | .property _ _ => .property

def value : Write → Value
  | .field _ value | .property _ value => value

end Write

namespace Body

def values (body : Body) : List Value := body.creation.values ++ body.writes.map (·.value)

/-- All that the values in a body are made of. -/
def parts (body : Body) : List Value := body.values.flatMap (·.parts)

end Body

/-- How the destination is created as the plan says. -/
inductive Creation.IsBy (call : ConstructorPlan) (destination : TypeDescriptor × StructType) : Creation → Prop
  | literal (fields : List FieldValue) (constructor : call.constructor = .literal)
      (named : fields.map (·.field) = (destination.2.members.filter Scope.isLiteralField).map (·.name)) :
      IsBy call destination (.literal destination.1.ident fields)
  | call (function : String) (parameters : List Parameter) (arguments : List Value)
      (constructor : call.constructor = .function function parameters) :
      IsBy call destination (.call destination.1.ident function arguments)

namespace Scope

variable {scope : Scope}

theorem write_ok {assignment : MemberAssignment} {write : Write} (made : scope.write assignment = .ok write) :
    write.member = assignment.member ∧ write.kind = assignment.kind ∧
      scope.value assignment.expr = .ok write.value := by
  obtain ⟨_, value, isValue, ⟨kind, rfl⟩ | ⟨kind, _, rfl⟩⟩ := scope.write_made made
  · exact ⟨rfl, kind.symm, isValue⟩
  · exact ⟨rfl, kind.symm, isValue⟩

theorem fieldValue_ok {plan : Plan} {member : Member} {entry : FieldValue}
    (made : scope.fieldValue plan member = .ok entry) : entry.field = member.name ∧
      ∀ value, entry.value = some value → ∃ assignment ∈ plan.assignments, scope.value assignment.expr = .ok value := by
  obtain ⟨_, ⟨assignment, value, found, isValue, rfl⟩ | ⟨_, rfl⟩⟩ := scope.fieldValue_made made
  · refine ⟨rfl, fun other same => ?_⟩
    cases same
    exact ⟨assignment, List.mem_of_find?_eq_some found, isValue⟩
  · exact ⟨rfl, nofun⟩

/-- What a body is made of, next to the plan that it carries out. -/
structure CarriesOut (scope : Scope) (plan : Plan) (call : ConstructorPlan)
    (destination : TypeDescriptor × StructType) (body : Body) : Prop where
  creation : body.creation.IsBy call destination
  created : ∀ value ∈ body.creation.values, ∃ expr ∈ plan.values, scope.value expr = .ok value
  writes : ∀ write ∈ body.writes, ∃ assignment ∈ plan.assignments, write.member = assignment.member ∧
    write.kind = assignment.kind ∧ scope.value assignment.expr = .ok write.value

theorem writes_ok {assignments : List MemberAssignment} {writes : List Write}
    (made : assignments.mapM scope.write = .ok writes) : ∀ write ∈ writes, ∃ assignment ∈ assignments,
      write.member = assignment.member ∧ write.kind = assignment.kind ∧
        scope.value assignment.expr = .ok write.value := by
  intro write isWrite
  obtain ⟨assignment, present, made⟩ := mapM_ok_mem made isWrite
  exact ⟨assignment, present, write_ok made⟩

theorem bodyWith_ok {plan : Plan} {call : ConstructorPlan} (planned : plan.constructor = some call)
    {destination : TypeDescriptor × StructType} {body : Body}
    (made : scope.bodyWith plan call destination = .ok body) : scope.CarriesOut plan call destination body := by
  have assigned {assignment : MemberAssignment} (present : assignment ∈ plan.assignments) :
      assignment.expr ∈ plan.values := List.mem_append_right _ (List.mem_map_of_mem present)
  obtain ⟨_, ⟨constructor, fields, writes, fieldsMade, writesMade, rfl⟩ |
    ⟨function, parameters, arguments, writes, constructor, _, argumentsMade, writesMade, rfl⟩⟩ :=
      scope.bodyWith_made made
  · refine ⟨.literal fields constructor ?named, ?created, ?writes⟩
    case named =>
      exact forall₂_map_eq ((mapM_ok _ _ _).mp fieldsMade) fun _ _ made => (fieldValue_ok made).1
    case created =>
      intro value isValue
      obtain ⟨entry, isEntry, hasValue⟩ := List.mem_filterMap.mp isValue
      obtain ⟨member, _, made⟩ := mapM_ok_mem fieldsMade isEntry
      obtain ⟨assignment, present, isValue⟩ := (fieldValue_ok made).2 value hasValue
      exact ⟨assignment.expr, assigned present, isValue⟩
    case writes =>
      intro write isWrite
      obtain ⟨assignment, later, carried⟩ := writes_ok writesMade write isWrite
      exact ⟨assignment, List.mem_of_mem_filter later, carried⟩
  · refine ⟨.call function parameters arguments constructor, ?_, writes_ok writesMade⟩
    intro value isValue
    obtain ⟨argument, isArgument, isValue⟩ := mapM_ok_mem argumentsMade isValue
    refine ⟨argument.expr, List.mem_append_left _ ?_, isValue⟩
    rw [planned]
    exact List.mem_map_of_mem isArgument

/-- Whatever the values in a body are made of stands for what the plan is made of. -/
theorem CarriesOut.parts {plan : Plan} {call : ConstructorPlan} {destination : TypeDescriptor × StructType}
    {body : Body} (carries : scope.CarriesOut plan call destination body) :
    ∀ part ∈ body.parts, ∃ expr ∈ plan.values, part.IsFrom expr.parts := by
  intro part isPart
  obtain ⟨value, isValue, inside⟩ := List.mem_flatMap.mp isPart
  obtain created | written := List.mem_append.mp isValue
  · obtain ⟨expr, isPlanned, made⟩ := carries.created value created
    exact ⟨expr, isPlanned, scope.value_renders expr made part inside⟩
  · obtain ⟨write, isWrite, rfl⟩ := List.mem_map.mp written
    obtain ⟨assignment, present, _, _, made⟩ := carries.writes write isWrite
    exact ⟨assignment.expr, List.mem_append_right _ (List.mem_map_of_mem present),
      scope.value_renders assignment.expr made part inside⟩

end Scope

end ObjectMapping.Rendering
