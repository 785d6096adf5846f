/-
This file defines mapping plans: how the destination is created, what each member gets, and which
enum functions that takes.
-/

import ObjectMapping.Diagnostic
import ObjectMapping.EnumFunction
import ObjectMapping.Expr

namespace ObjectMapping

/-- How the constructor was chosen. -/
inductive ConstructorState
  /-- There was no constructor to choose from. -/
  | noConstructor
  /-- The user asked for the constructor without parameters. -/
  | explicitEmpty
  /-- The user's arguments selected a constructor by their number. -/
  | explicitParameterized
  /-- The only constructor takes no parameters. -/
  | autoSingleParameterless
  /-- The parameters of the only constructor were all found in the source. -/
  | autoSingleParameterizedMapped
  /-- There were several constructors and no choice. -/
  | ambiguousError
  /-- The constructor that was needed could not be found or could not be called. -/
  | requiredButMissingError
  deriving Repr, DecidableEq

def ConstructorState.tag : ConstructorState → String
  | .noConstructor => "NoConstructor"
  | .explicitEmpty => "ExplicitEmpty"
  | .explicitParameterized => "ExplicitParameterized"
  | .autoSingleParameterless => "AutoSingleParameterless"
  | .autoSingleParameterizedMapped => "AutoSingleParameterizedMapped"
  | .ambiguousError => "AmbiguousError"
  | .requiredButMissingError => "RequiredButMissingError"

structure ConstructorArgument where
  param : String
  expr : Expr
  deriving Repr

/-- A constructor call; it populates the claimed members of the destination. -/
structure ConstructorPlan where
  constructor : Constructor
  arguments : List ConstructorArgument
  claimed : List String
  deriving Repr

structure MemberAssignment where
  member : String
  kind : MemberKind
  expr : Expr
  deriving Repr

inductive IgnoreReason
  /-- The member is a marker without data. -/
  | system
  /-- The member cannot be written once the struct exists. -/
  | notSettable
  /-- The user asked for it. -/
  | explicit
  deriving Repr, DecidableEq

def IgnoreReason.tag : IgnoreReason → String
  | .system => "system"
  | .notSettable => "not_settable"
  | .explicit => "explicit"

/-- What became of a member of the destination. -/
inductive Outcome
  | constructor
  | assigned
  | ignored (reason : IgnoreReason)
  | diagnosed (id : DiagnosticId)
  deriving Repr, DecidableEq

namespace Outcome

def text : Outcome → String
  | .constructor => "constructor"
  | .assigned => "assigned"
  | .ignored .system => "ignored (system)"
  | .ignored .notSettable => "ignored (not settable)"
  | .ignored .explicit => "ignored"
  | .diagnosed id => s!"diagnosed ({id.code})"

def isDiagnosed : Outcome → Bool
  | .diagnosed _ => true
  | _ => false

end Outcome

structure MemberOutcome where
  member : String
  outcome : Outcome
  deriving Repr, DecidableEq

structure Plan where
  constructor : Option ConstructorPlan
  state : ConstructorState
  /-- What is written once the destination exists, in the order of rank. -/
  assignments : List MemberAssignment
  /-- One outcome for each member of the destination, in the order of rank. -/
  outcomes : List MemberOutcome
  enumFunctions : List EnumFunction
  deriving Repr

namespace Plan

def assignment? (plan : Plan) (member : String) : Option MemberAssignment :=
  plan.assignments.find? (·.member == member)

def outcome? (plan : Plan) (member : String) : Option Outcome :=
  (plan.outcomes.find? (·.member == member)).map (·.outcome)

/-- Whether the destination can be created and no member was diagnosed. -/
def isComplete (plan : Plan) : Bool :=
  plan.constructor.isSome && plan.outcomes.all fun entry => !entry.outcome.isDiagnosed

end Plan

end ObjectMapping
