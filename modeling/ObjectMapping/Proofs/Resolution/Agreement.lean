/-
This file compares expressions of two plans. Each plan names the enum functions that it needs, so that the
same conversion may go by two names.
-/

import ObjectMapping.Proofs.Expr
import ObjectMapping.Proofs.Resolution.Values

namespace ObjectMapping

/-- The same expression in two plans, each of which has its own names for its enum functions. -/
inductive Expr.Agrees (first second : List EnumFunction) : Expr → Expr → Prop
  /-- An expression that is made of no others. -/
  | atom (expr : Expr) (whole : expr.inside = []) : Agrees first second expr expr
  | widen (value other : Expr) (target : Scalar) (agrees : Agrees first second value other) :
      Agrees first second (.widen value target) (.widen other target)
  | some (value other : Expr) (agrees : Agrees first second value other) :
      Agrees first second (.some value) (.some other)
  | enumConvert (function called : EnumFunction) (value other : Expr) (known : function ∈ first)
      (alsoKnown : called ∈ second) (sameKey : called.key = function.key)
      (agrees : Agrees first second value other) :
      Agrees first second (.enumConvert function.name value) (.enumConvert called.name other)
  | delegate (mapper method : String) (value other : Expr) (forwarded : List String)
      (agrees : Agrees first second value other) :
      Agrees first second (.delegate mapper method (value :: forwarded.map .param))
        (.delegate mapper method (other :: forwarded.map .param))
  | collect (source otherSource transform other : Expr) (binder : String) (target : CollectionKind)
      (sources : Agrees first second source otherSource) (transforms : Agrees first second transform other) :
      Agrees first second (.collect source binder transform target) (.collect otherSource binder other target)
  | collectVerbatim (source binder : String) (transform other : Expr) (target : CollectionKind)
      (transforms : Agrees first second transform other) :
      Agrees first second (.collectVerbatim source binder transform target)
        (.collectVerbatim source binder other target)

namespace Expr.Agrees

variable {first second : List EnumFunction} {value other : Expr}

/-- Expressions still agree when functions are added. -/
theorem addFunctions {more others : List EnumFunction} (kept : first ⊆ more) (alsoKept : second ⊆ others)
    (agrees : value.Agrees first second other) : value.Agrees more others other := by
  induction agrees with
  | atom expr whole => exact .atom expr whole
  | widen value other target _ inductionHypothesis => exact .widen value other target inductionHypothesis
  | some value other _ inductionHypothesis => exact .some value other inductionHypothesis
  | enumConvert function called value other known alsoKnown sameKey _ inductionHypothesis =>
      exact .enumConvert function called value other (kept known) (alsoKept alsoKnown) sameKey
        inductionHypothesis
  | delegate mapper method value other forwarded _ inductionHypothesis =>
      exact .delegate mapper method value other forwarded inductionHypothesis
  | collect source otherSource transform other binder target _ _ ofSource ofTransform =>
      exact .collect source otherSource transform other binder target ofSource ofTransform
  | collectVerbatim source binder transform other target _ ofTransform =>
      exact .collectVerbatim source binder transform other target ofTransform

theorem converted (conversion : Conversion) (agrees : value.Agrees first second other) :
    (conversion.apply value).Agrees first second (conversion.apply other) := by
  cases conversion with
  | widen target => exact .widen value other target agrees
  | wrap => exact .some value other agrees
  | widenAndWrap target => exact .some _ _ (.widen value other target agrees)

end Expr.Agrees

namespace MappingTask

/-- Two conversions to the same expression, each with the functions that are registered with it. -/
def SameConversion (before after : EnumRegistry × Expr) : Prop :=
  before.2.Agrees before.1.functions after.1.functions after.2

section

variable (task : MappingTask) (left right : EnumRegistry) (value : Expr)

theorem enumCall_same (key : EnumKey) (whole : value.inside = []) :
    SameConversion (task.enumCall left key value) (task.enumCall right key value) := by
  obtain ⟨function, known, named, ofKey⟩ := left.register_function task.schema key
  obtain ⟨called, alsoKnown, alsoNamed, alsoOfKey⟩ := right.register_function task.schema key
  have agrees := Expr.Agrees.enumConvert function called value value known alsoKnown
    (alsoOfKey.trans ofKey.symm) (.atom value whole)
  rw [named, alsoNamed] at agrees
  exact agrees

theorem convertElement_same (relation : ElementRelation) (whole : value.inside = []) :
    SameConversion (task.convertElement left value relation) (task.convertElement right value relation) := by
  cases relation with
  | exact => exact .atom value whole
  | enum key => exact task.enumCall_same left right value key whole
  | implicit conversion => exact .converted conversion (.atom value whole)

theorem delegateCall_same (delegation : Delegation) (whole : value.inside = []) :
    SameConversion (left, task.delegateCall delegation value) (right, task.delegateCall delegation value) :=
  .delegate _ _ value value _ (.atom value whole)

/-- The relation of two types decides what a value becomes, whatever functions there are. -/
theorem convert?_same (source destination : TypeRef) (relation : TypeRelation) (whole : value.inside = []) :
    Option.Rel SameConversion (task.convert? left value source destination relation)
      (task.convert? right value source destination relation) := by
  cases relation with
  | nullableMismatch | enumMismatch | incompatible => exact .none
  | exact => exact .some (.atom value whole)
  | enum key => exact .some (task.enumCall_same left right value key whole)
  | implicit conversion => exact .some (.converted conversion (.atom value whole))
  | collection relation target =>
      unfold convert?
      cases source.element? with
      | none => exact .none
      | some element =>
          exact .some (.collect value value _ _ _ target (.atom value whole)
            (task.convertElement_same left right _ relation rfl))
  | delegated delegation =>
      simp only [convert?]
      split
      · cases source.element? with
        | none => exact .none
        | some element =>
            exact .some (.collect value value _ _ _ _ (.atom value whole)
              (task.delegateCall_same left right _ delegation rfl))
      · exact .some (task.delegateCall_same left right value delegation whole)

end

/-- What the user gives calls no enum functions. -/
theorem UserRule.agrees {task : MappingTask} {destination : TypeRef} {value : Expr}
    (rule : task.UserRule destination value) (first second : List EnumFunction) :
    value.Agrees first second value := by
  cases rule with
  | written text => exact .atom _ rfl
  | collected directive member transform =>
      exact .collect _ _ _ _ _ _ (.atom _ rfl) (.atom (.verbatim transform) rfl)
  | collectedWritten directive source transform =>
      exact .collectVerbatim _ _ _ _ _ (.atom (.verbatim transform) rfl)

end MappingTask

end ObjectMapping
