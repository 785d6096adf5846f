/-
This file proves which names in a plan may be no identifiers in generated code, where the names that its task is made
with are: those that elements of collections get from their types.
-/

import ObjectMapping.Proofs.Rendering.Body
import ObjectMapping.Proofs.Rendering.Identifier
import ObjectMapping.Proofs.Resolution.Access
import ObjectMapping.Proofs.Resolution.EnumCalls

namespace ObjectMapping

open Rendering

/-- The name of the declared type that a collection holds, as values or as options. -/
def TypeRef.elementIdent? (schema : Schema) (type : TypeRef) : Option String :=
  match type.element?.map TypeRef.nonNullable with
  | some (.named id) => some (schema.identOf id)
  | _ => none

/-- The type that the elements of a collection are named for. -/
def Expr.namesake? (schema : Schema) : Expr → Option String
  | .collect (.member _ _ _ type) binder _ _ =>
      (type.elementIdent? schema).filter fun ident => (Name.ofText ident).snakeCase == binder
  | _ => none

/-- What a value needs that is not met in any case: its texts, and the name that it makes of a type. -/
def Expr.openNeeds (schema : Schema) (value : Expr) : List Need :=
  value.userTexts.map .expression ++
    (value.namesake? schema).toList.map fun ident => .identifier (Name.ofText ident).snakeCase

/-- The values of a plan need its texts and the names that they make of types. -/
def Plan.openNeeds (schema : Schema) (plan : Plan) : List Need := plan.values.flatMap (·.openNeeds schema)

/-- The names by which others use a struct can stand as identifiers. -/
structure StructType.IsNamed (type : StructType) : Prop where
  readable : ∀ member ∈ type.members, member.readable = true → IsUsable member.name
  setters : ∀ member ∈ type.members, member.settable = true → member.kind = .property →
    IsUsable (setterName member.name)
  fields : .literal ∈ type.constructors → ∀ member ∈ type.members, Scope.isLiteralField member → IsUsable member.name
  functions : ∀ name parameters, .function name parameters ∈ type.constructors → IsUsable name

/-- The names that a task is made with can stand as identifiers. -/
structure MappingTask.IsNamed (task : MappingTask) : Prop where
  params : ∀ name ∈ task.params, IsUsable name
  source : task.sourceParam ∈ task.params ∧ task.sourceStruct.IsNamed
  destination : IsUsable task.destination.ident ∧ task.destinationStruct.IsNamed
  fields : ∀ mapper ∈ task.request.delegates, IsUsable mapper.field
  methods : ∀ mapper ∈ task.request.delegates, ∀ method ∈ mapper.methods, IsUsable method.name
  mapped : ∀ directive ∈ task.request.directives.mapMembers, IsUsable directive.member
  collected : ∀ directive ∈ task.request.directives.collections, IsUsable directive.member
  binders : ∀ directive ∈ task.request.directives.collections, ∀ closure,
    directive.item = .closure closure → ∀ name ∈ closure.firstParam?, IsUsable name
  /-- The name of a type is spelt with letters of identifiers, even where it is none itself. -/
  types : ∀ id, HasLetters (task.schema.identOf id)

namespace Expr

theorem openNeeds_within (schema : Schema) (value : Expr) : value.openNeeds schema ⊆ value.needs := by
  refine List.append_subset.mpr ⟨?_, ?_⟩
  · intro need isOpen
    obtain ⟨text, isText, rfl⟩ := List.mem_map.mp isOpen
    obtain ⟨other, needed, isText⟩ := List.mem_filterMap.mp isText
    cases other with
    | identifier name => cases isText
    | expression other =>
        cases isText
        exact needed
  · intro need isOpen
    obtain ⟨ident, isNamesake, rfl⟩ := List.mem_map.mp isOpen
    have isNamesake := Option.mem_toList.mp isNamesake
    unfold namesake? at isNamesake
    split at isNamesake
    · obtain ⟨_, same⟩ := Option.filter_eq_some_iff.mp isNamesake
      rw [beq_iff_eq.mp same, needs]
      exact List.mem_append_right _ List.mem_cons_self
    · cases isNamesake

theorem namesake?_ident {schema : Schema} {value : Expr} {ident : String}
    (isNamesake : value.namesake? schema = Option.some ident) : ∃ id, schema.identOf id = ident := by
  unfold namesake? at isNamesake
  split at isNamesake
  · obtain ⟨isNamed, _⟩ := Option.filter_eq_some_iff.mp isNamesake
    unfold TypeRef.elementIdent? at isNamed
    split at isNamed
    · next id _ => exact ⟨id, Option.some.inj isNamed⟩
    · cases isNamed
  · cases isNamesake

theorem text_isOpen (schema : Schema) {value : Expr} {text : String} (needed : .expression text ∈ value.needs) :
    .expression text ∈ value.openNeeds schema :=
  List.mem_append_left _ (List.mem_map_of_mem (List.mem_filterMap.mpr ⟨_, needed, rfl⟩))

theorem binder_isOpen {schema : Schema} {type : TypeRef} {ident : String}
    (named : type.elementIdent? schema = Option.some ident) (owner name : String) (kind : MemberKind)
    (transform : Expr) (target : CollectionKind) :
    .identifier (Name.ofText ident).snakeCase ∈
      (collect (.member owner name kind type) (Name.ofText ident).snakeCase transform target).openNeeds schema := by
  refine List.mem_append_right _ (List.mem_map.mpr ⟨ident, Option.mem_toList.mpr ?_, rfl⟩)
  rw [namesake?, named]
  exact Option.filter_eq_some_iff.mpr ⟨rfl, beq_self_eq_true _⟩

theorem allNeeds_params (names : List String) : allNeeds (names.map .param) = names.map .identifier := by
  induction names with
  | nil => rfl
  | cons name rest inductionHypothesis =>
      rw [List.map_cons, allNeeds, inductionHypothesis]
      rfl

end Expr

namespace MappingTask

variable {task : MappingTask} (usable : task.IsNamed)
include usable

/-- The name of an element is usable, unless it is that of a type as it is. -/
theorem elementName_named (element : TypeRef) : IsUsable (task.elementName element) ∨
    ∃ id, element.nonNullable = .named id ∧ task.elementName element = (task.schema.nameOf id).snakeCase := by
  unfold elementName
  cases element.nonNullable with
  | named id =>
      dsimp only
      split
      · next taken =>
          -- A parameter of the name stands as an identifier, and so does what is made to avoid it.
          have param := usable.params _ (List.contains_iff_mem.mp taken)
          exact .inl ((Continues.snakeCase (usable.types id)).usable param (by decide : Continues "_item"))
      · exact .inr ⟨id, rfl, rfl⟩
  | _ =>
      left
      dsimp only
      split <;> rfl

/-- What a name for the elements of a collection can need. -/
theorem binder_named {type element : TypeRef} (isElement : type.element? = some element) :
    IsUsable (task.elementName element) ∨ ∃ ident, type.elementIdent? task.schema = some ident ∧
      task.elementName element = (Name.ofText ident).snakeCase := by
  refine (elementName_named usable element).imp_right ?_
  rintro ⟨id, isNamed, same⟩
  exact ⟨task.schema.identOf id, by rw [TypeRef.elementIdent?, isElement, Option.map_some, isNamed], same⟩

theorem binderOf_named {directive : MapCollection} (given : directive ∈ task.request.directives.collections)
    (type : Option TypeRef) : IsUsable (task.binderOf directive.item (type.bind (·.element?))) ∨
      ∃ ident, type.bind (·.elementIdent? task.schema) = some ident ∧
        task.binderOf directive.item (type.bind (·.element?)) = (Name.ofText ident).snakeCase := by
  have made : IsUsable (((type.bind (·.element?)).map task.elementName).getD "item") ∨
      ∃ ident, type.bind (·.elementIdent? task.schema) = some ident ∧
        ((type.bind (·.element?)).map task.elementName).getD "item" = (Name.ofText ident).snakeCase := by
    cases isElement : type.bind (·.element?) with
    | none => exact .inl item_isUsable
    | some element =>
        obtain ⟨whole, rfl, isElement⟩ := Option.bind_eq_some_iff.mp isElement
        exact binder_named usable isElement
  unfold binderOf
  cases item : directive.item with
  | path => exact made
  | closure closure =>
      cases first : closure.firstParam? with
      | none => simpa only [first, Option.getD_none] using made
      | some name =>
          left
          simpa only [first, Option.getD_some] using usable.binders directive given closure item name first

theorem delegateCall_needs {delegation : Delegation} {arity : Nat} {source destination : TypeRef}
    (takes : delegation.Takes task.request.delegates arity source destination) (value : Expr) :
    ∀ need ∈ (task.delegateCall delegation value).needs, need ∈ value.needs ∨ need.IsMet := by
  rw [delegateCall, Expr.needs, Expr.allNeeds, Expr.allNeeds_params]
  refine List.forall_mem_cons.mpr ⟨.inr (usable.fields _ takes.included), ?_⟩
  refine List.forall_mem_cons.mpr ⟨.inr (usable.methods _ takes.included _ takes.method), ?_⟩
  refine List.forall_mem_append.mpr ⟨fun _ => .inl, fun need needed => ?_⟩
  obtain ⟨name, isForwarded, rfl⟩ := List.mem_map.mp needed
  exact .inr (usable.params name (List.mem_of_mem_take (List.mem_of_mem_drop isForwarded)))

/-- A conversion needs what the value needs, next to names that are usable. -/
theorem SingleRule.needs {value made : Expr} {source destination : TypeRef}
    (rule : task.SingleRule value source destination made) (called : ∀ function ∈ made.calls, IsUsable function) :
    ∀ need ∈ made.needs, need ∈ value.needs ∨ need.IsMet := by
  cases rule with
  | exact => exact fun _ => .inl
  | enum key function =>
      have usable : IsUsable function := called function (by simp)
      exact List.forall_mem_cons.mpr ⟨.inr usable, fun _ => .inl⟩
  | implicit conversion =>
      cases conversion <;> exact fun _ => .inl
  | delegated delegation _ _ takes => exact delegateCall_needs usable takes value

theorem read_needs {member : Member} (present : member ∈ task.sourceStruct.members)
    (readable : member.readable = true) : ∀ need ∈ (task.read member).needs, need.IsMet :=
  List.forall_mem_cons.mpr ⟨usable.params _ usable.source.1,
    List.forall_mem_singleton.mpr (usable.source.2.readable member present readable)⟩

theorem UserRule.needs {destination : TypeRef} {value : Expr} (rule : task.UserRule destination value) :
    ∀ need ∈ value.needs, need ∈ value.openNeeds task.schema ∨ need.IsMet := by
  cases rule with
  | written text => exact List.forall_mem_singleton.mpr (.inl (Expr.text_isOpen _ List.mem_cons_self))
  | collected directive member transform given present readable =>
      refine List.forall_mem_append.mpr ⟨fun need needed => .inr (read_needs usable present readable need needed), ?_⟩
      refine List.forall_mem_cons.mpr ⟨?_, List.forall_mem_singleton.mpr (.inl (Expr.text_isOpen _ ?_))⟩
      · obtain isUsable | ⟨ident, named, same⟩ := binderOf_named usable given (some member.type)
        · exact .inr isUsable
        · left
          change task.binderOf directive.item member.type.element? = _ at same
          rw [same]
          exact Expr.binder_isOpen named _ _ _ _ _
      · simp [Expr.needs]
  | collectedWritten directive source transform given =>
      have binder := (binderOf_named usable given none).resolve_right nofun
      refine List.forall_mem_cons.mpr ⟨.inl (Expr.text_isOpen _ List.mem_cons_self), ?_⟩
      refine List.forall_mem_cons.mpr ⟨.inr binder, List.forall_mem_singleton.mpr (.inl (Expr.text_isOpen _ ?_))⟩
      simp [Expr.needs]

/-- All that a value of a plan needs is met, its texts and a name made of a type aside. -/
theorem ValueRule.needs {destination : TypeRef} {value : Expr} (rule : task.ValueRule destination value)
    (called : ∀ function ∈ value.calls, IsUsable function) :
    ∀ need ∈ value.needs, need ∈ value.openNeeds task.schema ∨ need.IsMet := by
  cases rule with
  | given _ rule => exact rule.needs usable
  | converted member _ present readable rule =>
      have ofRead := read_needs usable present readable
      generalize isType : member.type = source at rule
      cases rule with
      | single _ _ _ rule =>
          intro need needed
          exact .inr ((rule.needs usable called need needed).elim (ofRead need) id)
      | elements kind target source made transform each =>
          have binder := binder_named usable (show (TypeRef.collection kind source).element? = some source from rfl)
          have ofBinder : .identifier (task.elementName source) ∈ (Expr.collect (task.read member)
              (task.elementName source) transform target).openNeeds task.schema ∨
                IsUsable (task.elementName source) := by
            obtain isUsable | ⟨ident, named, same⟩ := binder
            · exact .inr isUsable
            · left
              rw [← isType] at named
              rw [same]
              exact Expr.binder_isOpen named _ _ _ _ _
          refine List.forall_mem_append.mpr ⟨fun need needed => .inr (ofRead need needed), ?_⟩
          refine List.forall_mem_cons.mpr ⟨ofBinder, fun need needed => ?_⟩
          have called : ∀ function ∈ transform.calls, IsUsable function := fun function isCalled => by
            refine called function ?_
            rw [Expr.calls_collect]
            exact List.mem_append_right _ isCalled
          obtain ofItem | met := each.needs usable called need needed
          · exact List.mem_singleton.mp ofItem ▸ ofBinder
          · exact .inr met

/-- The functions of a plan have usable names. -/
theorem enumFunctions_usable : ∀ function ∈ task.resolve.plan.enumFunctions, IsUsable function.name := by
  obtain ⟨keys, needs⟩ := task.resolve_needs
  have ofRegistry : ∀ function ∈ (EnumRegistry.empty.registerAll task.schema
      (task.request.directives.enums.filterMap task.pairKey? ++ keys)).functions, IsUsable function.name :=
    EnumRegistry.registerAll_functions (fun registry key => isFirstFree_usable (.snakeCase (usable.types key.source))
      (.snakeCase (usable.types key.destination)) (registry.freshName_isFirstFree _ _)) _
  rwa [← enumFunctions_registered needs] at ofRegistry

/-- All that the values of a plan need is met, their texts and the names that they make of types aside. -/
theorem plan_needs : ∀ need ∈ task.resolve.plan.needs, need ∈ task.resolve.plan.openNeeds task.schema ∨ need.IsMet := by
  intro need needed
  obtain ⟨value, isValue, needed⟩ := List.mem_flatMap.mp needed
  obtain ⟨destination, rule⟩ := resolve_values value isValue
  obtain ⟨keys, needs⟩ := task.resolve_needs
  have called : ∀ function ∈ value.calls, IsUsable function := by
    intro name isCalled
    have among := List.mem_flatMap.mpr ⟨value, isValue, isCalled⟩
    obtain ⟨key, _, function, known, rfl, _⟩ := forall₂_left needs.called name among
    exact enumFunctions_usable usable function known
  exact (rule.needs usable called need needed).imp_left fun isOpen => List.mem_flatMap.mpr ⟨value, isValue, isOpen⟩

/-- What is assigned has a usable name: it is named by the user or read from the source. -/
theorem MemberRule.named {registry : EnumRegistry} {member : Member} {decision : EnumRegistry × Verdict}
    (rule : task.MemberRule registry member decision) {value : Expr} (assigned : decision.2 = .assigned value) :
    IsUsable member.name := by
  cases rule with
  | system | notSettable => cases assigned
  | ignored directive => exact absurd assigned (ignoredByUser_ne member directive value)
  | mapped directive _ found =>
      have same : directive.member = member.name := by simpa using List.find?_some found
      exact same ▸ usable.mapped directive (List.mem_of_find?_eq_some found)
  | collected directive _ _ _ found =>
      have same : directive.member = member.name := by simpa using List.find?_some found
      exact same ▸ usable.collected directive (List.mem_of_find?_eq_some found)
  | inferred =>
      have inferred := task.infer_rule registry member
      generalize task.infer registry member = decision at inferred assigned
      cases inferred with
      | missing | mismatched => cases assigned
      | converted source _ _ found =>
          obtain ⟨present, readable⟩ := sourceMember?_some found
          obtain ⟨named, _⟩ := Option.filter_eq_some_iff.mp found
          exact (StructType.mem_of_member? named).2 ▸ usable.source.2.readable source present readable

theorem assignments_named : ∀ assignment ∈ task.resolve.plan.assignments, IsUsable assignment.member := by
  intro assignment present
  obtain ⟨result, listed, named, _, assigned⟩ := task.assignments_result present
  rw [← named]
  obtain ⟨_, claimed⟩ | ⟨_, before, after, rule⟩ := task.resolveMembers_rules _ _ _ result listed
  · rw [claimed] at assigned
    cases assigned
  · exact rule.named usable assigned

/-- What a plan writes to has usable names. -/
theorem plan_writesToUsable {call : ConstructorPlan} (planned : task.resolve.plan.constructor = some call) :
    task.resolve.plan.WritesToUsable call (task.destination, task.destinationStruct) := by
  have offered := constructor_offered planned
  obtain ⟨identUsable, type⟩ := usable.destination
  refine ⟨identUsable, fun isLiteral => ?fields, fun name parameters isFunction => ?function,
    assignments_named usable, fun assignment present isProperty => ?setters⟩
  case fields => exact type.fields (isLiteral ▸ offered)
  case function => exact type.functions name parameters (isFunction ▸ offered)
  case setters =>
    obtain ⟨member, isMember, named, kind, settable⟩ := task.assignments_settable assignment present
    exact named ▸ type.setters member isMember settable (kind.trans isProperty)

end MappingTask

end ObjectMapping
