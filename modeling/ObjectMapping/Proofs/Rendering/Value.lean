/-
This file proves what can keep a value from being rendered: each name in its expression has to be an identifier,
and each text of the user has to be read again. A value that is refused is refused for one of them. What is not
refused is taken apart here: values by the form of their expressions, and what they are written to.
-/

import ObjectMapping.Proofs.Fallible
import ObjectMapping.Rendering.Body

namespace ObjectMapping

open Source

/-- A text of the user can be read as an expression. -/
def IsReadable (text : String) : Prop := ∃ tokens, expressionTokens text = .ok tokens

namespace Rendering

/-- The name can stand as an identifier in generated code. -/
def IsUsable (name : String) : Prop := identifier name = .ok name

theorem item_isUsable : IsUsable "item" := rfl

/-- What code cannot be generated without. -/
inductive Need
  | identifier (name : String)
  | expression (text : String)

/-- The fault that reports a text that cannot be read. -/
def unreadable (text : String) (fault : SyntaxFault) : GenerationFault :=
  .problems [⟨Location.startOfText, .rendering (.unreadable text fault.message)⟩]

namespace Need

def IsMet : Need → Prop
  | .identifier name => IsUsable name
  | .expression text => IsReadable text

/-- The need is not met, which the fault says. -/
inductive Refuses : Need → GenerationFault → Prop
  | identifier (name : String) (unusable : ¬IsUsable name) : Refuses (.identifier name) (.invalidName name)
  | expression (text : String) (fault : SyntaxFault) (failed : expressionTokens text = .error fault) :
      Refuses (.expression text) (unreadable text fault)

theorem Refuses.unmet {need : Need} {fault : GenerationFault} (refuses : need.Refuses fault) : ¬need.IsMet := by
  cases refuses with
  | identifier name unusable => exact unusable
  | expression text fault failed =>
      rintro ⟨tokens, read⟩
      rw [failed] at read
      cases read

def text? : Need → Option String
  | .identifier _ => none
  | .expression text => some text

end Need

/-- A computation with needs: it succeeds if all of them are met, and refuses one that is not otherwise. -/
inductive Requires {α : Type} (needs : List Need) : Except GenerationFault α → Prop
  | done (value : α) (met : ∀ need ∈ needs, need.IsMet) : Requires needs (.ok value)
  | refused (need : Need) (fault : GenerationFault) (member : need ∈ needs) (refuses : need.Refuses fault) :
      Requires needs (.error fault)

namespace Requires

variable {α β : Type} {needs others : List Need}

theorem pure (value : α) : Requires [] (.ok value : Except GenerationFault α) := .done value nofun

/-- Two computations in sequence have the needs of both. -/
theorem bind {first : Except GenerationFault α} {next : α → Except GenerationFault β}
    (requires : Requires needs first) (nextRequires : ∀ value, first = .ok value → Requires others (next value)) :
    Requires (needs ++ others) (first >>= next) := by
  cases requires with
  | refused need fault member refuses =>
      exact .refused need fault (List.mem_append_left _ member) refuses
  | done value met =>
      have rest := nextRequires value rfl
      change Requires (needs ++ others) (next value)
      generalize next value = answer at rest ⊢
      cases rest with
      | refused need fault member refuses =>
          exact .refused need fault (List.mem_append_right _ member) refuses
      | done result nextMet =>
          exact .done result fun need member => (List.mem_append.mp member).elim (met need) (nextMet need)

theorem map {first : Except GenerationFault α} (requires : Requires needs first) (make : α → β) :
    Requires needs (first >>= fun value => .ok (make value)) := by
  rw [← List.append_nil needs]
  exact requires.bind fun value _ => .pure (make value)

theorem mapM {items : List α} {step : α → Except GenerationFault β} {needsOf : α → List Need}
    (requires : ∀ item ∈ items, Requires (needsOf item) (step item)) :
    Requires (items.flatMap needsOf) (items.mapM step) := by
  induction items with
  | nil => exact .pure []
  | cons item rest inductionHypothesis =>
      obtain ⟨itemRequires, restRequires⟩ := List.forall_mem_cons.mp requires
      rw [List.mapM_cons, List.flatMap_cons]
      exact itemRequires.bind fun value _ => (inductionHypothesis restRequires).map (value :: ·)

/-- Needs that are met in any case do not count. -/
theorem ofOpen {computation : Except GenerationFault α} (requires : Requires needs computation)
    (within : others ⊆ needs) (closed : ∀ need ∈ needs, need ∈ others ∨ need.IsMet) : Requires others computation := by
  cases requires with
  | done value met => exact .done value fun need member => met need (within member)
  | refused need fault member refuses =>
      exact .refused need fault ((closed need member).resolve_right refuses.unmet) refuses

theorem ok_iff {computation : Except GenerationFault α} (requires : Requires needs computation) :
    (∃ value, computation = .ok value) ↔ ∀ need ∈ needs, need.IsMet := by
  cases requires with
  | done value met => exact ⟨fun _ => met, fun _ => ⟨value, rfl⟩⟩
  | refused need fault member refuses => exact ⟨nofun, fun met => absurd (met need member) refuses.unmet⟩

end Requires

theorem identifier_ok {name accepted : String} (found : identifier name = .ok accepted) : accepted = name := by
  unfold identifier at found
  split at found
  · cases found
    rfl
  · cases found

/-- A name that is accepted is given as it is. -/
theorem identifier_isUsable {name accepted : String} (found : identifier name = .ok accepted) :
    accepted = name ∧ IsUsable accepted := by
  have same := identifier_ok found
  exact ⟨same, same ▸ found⟩

theorem name_requires (name : String) : Requires [.identifier name] (identifier name) := by
  unfold identifier
  split
  · next usable => exact .done name (List.forall_mem_singleton.mpr (if_pos usable))
  · next unusable =>
      have notUsable : ¬IsUsable name := by simp [IsUsable, identifier, unusable]
      exact .refused _ _ List.mem_cons_self (.identifier name notUsable)

/-- A name is needed as an identifier, and given as it is. -/
theorem identifier_requires {α : Type} {name : String} {others : List Need}
    {next : String → Except GenerationFault α} (requires : Requires others (next name)) :
    Requires (.identifier name :: others) (identifier name >>= next) :=
  (name_requires name).bind fun _ found => identifier_ok found ▸ requires

theorem written_requires (text : String) : Requires [.expression text] (Scope.written text) := by
  rw [Scope.written]
  cases read : expressionTokens text with
  | ok tokens => exact .done tokens (List.forall_mem_singleton.mpr ⟨tokens, read⟩)
  | error fault => exact .refused _ _ List.mem_cons_self (.expression text fault read)

end Rendering

open Rendering

mutual

/-- What the value of an expression cannot be rendered without. -/
def Expr.needs : Expr → List Need
  | .member owner name _ _ => [.identifier owner, .identifier name]
  | .param name => [.identifier name]
  | .item name _ => [.identifier name]
  | .verbatim written => [.expression written]
  | .widen value _ => value.needs
  | .some value => value.needs
  | .enumConvert function value => .identifier function :: value.needs
  | .delegate mapper method arguments => .identifier mapper :: .identifier method :: Expr.allNeeds arguments
  | .collect source binder transform _ => source.needs ++ .identifier binder :: transform.needs
  | .collectVerbatim source binder transform _ => .expression source :: .identifier binder :: transform.needs

def Expr.allNeeds : List Expr → List Need
  | [] => []
  | expr :: rest => expr.needs ++ Expr.allNeeds rest

end

/-- The texts of the user in an expression. -/
def Expr.userTexts (expr : Expr) : List String := expr.needs.filterMap (·.text?)

namespace Rendering

mutual

/-- The value of an expression exists where all that it needs is met. -/
theorem value_requires (scope : Scope) : ∀ expr : Expr, Requires expr.needs (scope.value expr)
  | .member owner name kind type => by
      rw [Scope.value, Expr.needs]
      exact identifier_requires (identifier_requires (.pure _))
  | .param name => by
      rw [Scope.value, Expr.needs]
      exact identifier_requires (.pure _)
  | .item name type => by
      rw [Scope.value, Expr.needs]
      exact identifier_requires (.pure _)
  | .verbatim written => by
      rw [Scope.value, Expr.needs]
      exact (written_requires written).map Value.written
  | .widen value target => by
      rw [Scope.value, Expr.needs]
      exact (value_requires scope value).map _
  | .some value => by
      rw [Scope.value, Expr.needs]
      exact (value_requires scope value).map _
  | .enumConvert function value => by
      rw [Scope.value, Expr.needs]
      exact identifier_requires ((value_requires scope value).map _)
  | .delegate mapper method arguments => by
      rw [Scope.value, Expr.needs]
      exact identifier_requires (identifier_requires ((values_require scope arguments).map _))
  | .collect source binder transform target => by
      rw [Scope.value, Expr.needs]
      exact (value_requires scope source).bind fun _ _ => identifier_requires ((value_requires scope transform).map _)
  | .collectVerbatim source binder transform target => by
      rw [Scope.value, Expr.needs]
      exact (written_requires source).bind fun _ _ => identifier_requires ((value_requires scope transform).map _)

theorem values_require (scope : Scope) : ∀ exprs : List Expr, Requires (Expr.allNeeds exprs) (scope.values exprs)
  | [] => by
      rw [Scope.values, Expr.allNeeds]
      exact .pure []
  | expr :: rest => by
      rw [Scope.values, Expr.allNeeds]
      exact (value_requires scope expr).bind fun value _ => (values_require scope rest).map (value :: ·)

end

namespace Scope

section

variable (scope : Scope) {value : Value}

theorem value_member {owner name : String} {kind : MemberKind} {type : TypeRef}
    (made : scope.value (.member owner name kind type) = .ok value) :
    IsUsable owner ∧ IsUsable name ∧ value = scope.readMember owner name kind type := by
  rw [Scope.value] at made
  obtain ⟨param, isParam, made⟩ := (bind_ok _ _ _).mp made
  obtain ⟨member, isMember, made⟩ := (bind_ok _ _ _).mp made
  cases made
  obtain ⟨rfl, ownerUsable⟩ := identifier_isUsable isParam
  obtain ⟨rfl, nameUsable⟩ := identifier_isUsable isMember
  exact ⟨ownerUsable, nameUsable, rfl⟩

theorem value_param {name : String} (made : scope.value (.param name) = .ok value) :
    IsUsable name ∧ value = .variable name := by
  rw [Scope.value] at made
  obtain ⟨param, isParam, made⟩ := (bind_ok _ _ _).mp made
  cases made
  obtain ⟨rfl, usable⟩ := identifier_isUsable isParam
  exact ⟨usable, rfl⟩

theorem value_item {name : String} {type : TypeRef} (made : scope.value (.item name type) = .ok value) :
    IsUsable name ∧ value = if type.isCopy then .dereferenced (.variable name) else .cloned (.variable name) := by
  rw [Scope.value] at made
  obtain ⟨binder, isBinder, made⟩ := (bind_ok _ _ _).mp made
  cases made
  obtain ⟨rfl, usable⟩ := identifier_isUsable isBinder
  exact ⟨usable, rfl⟩

theorem value_verbatim {text : String} (made : scope.value (.verbatim text) = .ok value) :
    ∃ tokens, value = .written tokens := by
  rw [Scope.value] at made
  obtain ⟨tokens, _, made⟩ := (bind_ok _ _ _).mp made
  cases made
  exact ⟨tokens, rfl⟩

theorem value_widen {arg : Expr} {target : Scalar} (made : scope.value (.widen arg target) = .ok value) :
    ∃ inner, scope.value arg = .ok inner ∧ value = .widened inner target := by
  rw [Scope.value] at made
  obtain ⟨inner, isInner, made⟩ := (bind_ok _ _ _).mp made
  cases made
  exact ⟨inner, isInner, rfl⟩

theorem value_some {arg : Expr} (made : scope.value (.some arg) = .ok value) :
    ∃ inner, scope.value arg = .ok inner ∧ value = .some inner := by
  rw [Scope.value] at made
  obtain ⟨inner, isInner, made⟩ := (bind_ok _ _ _).mp made
  cases made
  exact ⟨inner, isInner, rfl⟩

theorem value_enumConvert {function : String} {arg : Expr}
    (made : scope.value (.enumConvert function arg) = .ok value) :
    IsUsable function ∧ ∃ inner, scope.value arg = .ok inner ∧
      value = .converted function (scope.borrow arg inner) := by
  rw [Scope.value] at made
  obtain ⟨called, isCalled, made⟩ := (bind_ok _ _ _).mp made
  obtain ⟨inner, isInner, made⟩ := (bind_ok _ _ _).mp made
  cases made
  obtain ⟨rfl, usable⟩ := identifier_isUsable isCalled
  exact ⟨usable, inner, isInner, rfl⟩

theorem value_delegate {mapper method : String} {exprs : List Expr}
    (made : scope.value (.delegate mapper method exprs) = .ok value) :
    IsUsable mapper ∧ IsUsable method ∧ ∃ arguments, scope.values exprs = .ok arguments ∧
      value = .delegated mapper method (scope.delegateArguments exprs arguments) := by
  rw [Scope.value] at made
  obtain ⟨field, isField, made⟩ := (bind_ok _ _ _).mp made
  obtain ⟨called, isCalled, made⟩ := (bind_ok _ _ _).mp made
  obtain ⟨arguments, areArguments, made⟩ := (bind_ok _ _ _).mp made
  cases made
  obtain ⟨rfl, fieldUsable⟩ := identifier_isUsable isField
  obtain ⟨rfl, methodUsable⟩ := identifier_isUsable isCalled
  exact ⟨fieldUsable, methodUsable, arguments, areArguments, rfl⟩

theorem value_collect {source transform : Expr} {binder : String} {target : CollectionKind}
    (made : scope.value (.collect source binder transform target) = .ok value) :
    IsUsable binder ∧ ∃ place element, scope.value source = .ok place ∧ scope.value transform = .ok element ∧
      value = .collected (sourcePlace source place) binder element target := by
  rw [Scope.value] at made
  obtain ⟨place, isPlace, made⟩ := (bind_ok _ _ _).mp made
  obtain ⟨name, isName, made⟩ := (bind_ok _ _ _).mp made
  obtain ⟨element, isElement, made⟩ := (bind_ok _ _ _).mp made
  cases made
  obtain ⟨rfl, usable⟩ := identifier_isUsable isName
  exact ⟨usable, place, element, isPlace, isElement, rfl⟩

theorem value_collectVerbatim {source binder : String} {transform : Expr} {target : CollectionKind}
    (made : scope.value (.collectVerbatim source binder transform target) = .ok value) :
    IsUsable binder ∧ ∃ tokens element, scope.value transform = .ok element ∧
      value = .collectedWritten tokens binder element target := by
  rw [Scope.value] at made
  obtain ⟨tokens, _, made⟩ := (bind_ok _ _ _).mp made
  obtain ⟨name, isName, made⟩ := (bind_ok _ _ _).mp made
  obtain ⟨element, isElement, made⟩ := (bind_ok _ _ _).mp made
  cases made
  obtain ⟨rfl, usable⟩ := identifier_isUsable isName
  exact ⟨usable, tokens, element, isElement, rfl⟩

theorem values_cons {expr : Expr} {rest : List Expr} {values : List Value}
    (made : scope.values (expr :: rest) = .ok values) :
    ∃ first others, scope.value expr = .ok first ∧ scope.values rest = .ok others ∧ values = first :: others := by
  rw [Scope.values] at made
  obtain ⟨first, isFirst, made⟩ := (bind_ok _ _ _).mp made
  obtain ⟨others, areOthers, made⟩ := (bind_ok _ _ _).mp made
  cases made
  exact ⟨first, others, isFirst, areOthers, rfl⟩

theorem write_made {assignment : MemberAssignment} {write : Write} (made : scope.write assignment = .ok write) :
    IsUsable assignment.member ∧ ∃ value, scope.value assignment.expr = .ok value ∧
      ((assignment.kind = .field ∧ write = .field assignment.member value) ∨
        (assignment.kind = .property ∧ IsUsable (setterName assignment.member) ∧
          write = .property assignment.member value)) := by
  obtain ⟨value, isValue, made⟩ := (bind_ok _ _ _).mp made
  obtain ⟨member, isMember, made⟩ := (bind_ok _ _ _).mp made
  obtain ⟨rfl, usable⟩ := identifier_isUsable isMember
  refine ⟨usable, value, isValue, ?_⟩
  split at made
  · next isField =>
      cases made
      exact .inl ⟨isField, rfl⟩
  · next isProperty =>
      obtain ⟨setter, isSetter, made⟩ := (bind_ok _ _ _).mp made
      cases made
      obtain ⟨rfl, setterUsable⟩ := identifier_isUsable isSetter
      exact .inr ⟨isProperty, setterUsable, rfl⟩

theorem fieldValue_made {plan : Plan} {member : Member} {entry : FieldValue}
    (made : scope.fieldValue plan member = .ok entry) : IsUsable member.name ∧
      ((∃ assignment value, plan.assignment? member.name = some assignment ∧
          scope.value assignment.expr = .ok value ∧ entry = ⟨member.name, some value⟩) ∨
        (plan.assignment? member.name = none ∧ entry = ⟨member.name, none⟩)) := by
  obtain ⟨name, isName, made⟩ := (bind_ok _ _ _).mp made
  obtain ⟨rfl, usable⟩ := identifier_isUsable isName
  refine ⟨usable, ?_⟩
  split at made
  · next assignment found =>
      obtain ⟨value, isValue, made⟩ := (bind_ok _ _ _).mp made
      cases made
      exact .inl ⟨assignment, value, found, isValue, rfl⟩
  · next missing =>
      cases made
      exact .inr ⟨missing, rfl⟩

/-- A body is made for a struct literal or for a call. -/
theorem bodyWith_made {plan : Plan} {call : ConstructorPlan} {destination : TypeDescriptor × StructType} {body : Body}
    (made : scope.bodyWith plan call destination = .ok body) : IsUsable destination.1.ident ∧
      ((call.constructor = .literal ∧ ∃ fields writes,
          (destination.2.members.filter isLiteralField).mapM (scope.fieldValue plan) = .ok fields ∧
            (plan.assignments.filter (isWrittenLater destination.2)).mapM scope.write = .ok writes ∧
              body = ⟨.literal destination.1.ident fields, writes⟩) ∨
        ∃ function parameters arguments writes, call.constructor = .function function parameters ∧
          IsUsable function ∧ (call.arguments.mapM fun argument => scope.value argument.expr) = .ok arguments ∧
            plan.assignments.mapM scope.write = .ok writes ∧
              body = ⟨.call destination.1.ident function arguments, writes⟩) := by
  obtain ⟨ident, isIdent, made⟩ := (bind_ok _ _ _).mp made
  obtain ⟨rfl, usable⟩ := identifier_isUsable isIdent
  refine ⟨usable, ?_⟩
  split at made
  · next isLiteral =>
      obtain ⟨fields, fieldsMade, made⟩ := (bind_ok _ _ _).mp made
      obtain ⟨writes, writesMade, made⟩ := (bind_ok _ _ _).mp made
      cases made
      exact .inl ⟨isLiteral, fields, writes, fieldsMade, writesMade, rfl⟩
  · next function parameters isFunction =>
      obtain ⟨name, isName, made⟩ := (bind_ok _ _ _).mp made
      obtain ⟨arguments, argumentsMade, made⟩ := (bind_ok _ _ _).mp made
      obtain ⟨writes, writesMade, made⟩ := (bind_ok _ _ _).mp made
      cases made
      obtain ⟨rfl, nameUsable⟩ := identifier_isUsable isName
      exact .inr ⟨_, parameters, arguments, writes, isFunction, nameUsable, argumentsMade, writesMade, rfl⟩

end

end Scope

end Rendering

end ObjectMapping
