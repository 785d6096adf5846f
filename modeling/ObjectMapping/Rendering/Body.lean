/-
This file renders the bodies of mapping methods: the destination is created, then what is left of the plan
is written to it.
-/

import ObjectMapping.Rendering.Value

namespace ObjectMapping.Rendering

open Source

/-- A field of a struct literal; without a value it gets its default. -/
structure FieldValue where
  field : String
  value : Option Value

inductive Creation
  | literal (type : String) (fields : List FieldValue)
  | call (type function : String) (arguments : List Value)

/-- A write to the destination once it exists. -/
inductive Write
  | field (member : String) (value : Value)
  /-- A call of the setter of a property. -/
  | property (member : String) (value : Value)

structure Body where
  creation : Creation
  writes : List Write

def defaultValue : List Lexeme :=
  rootedPath ["core", "default", "Default", "default"] ++ parentheses []

def FieldValue.lexemes (entry : FieldValue) : List Lexeme :=
  words entry.field ++ sign ":" ++ (entry.value.map Value.lexemes).getD defaultValue

def Creation.lexemes : Creation → List Lexeme
  | .literal type fields => words type ++ braces (commaEnded (fields.map FieldValue.lexemes))
  | .call type function arguments =>
      words type ++ sign "::" ++ words function ++
        parentheses (commaSeparated (arguments.map Value.lexemes))

/-- The variable that holds the destination while it is written to. -/
def resultName : String := "__mapgen_result"

/-- The name without any signs of raw identifiers at its start. -/
def withoutRaws : List Char → List Char
  | 'r' :: '#' :: rest => withoutRaws rest
  | name => name

def setterName (member : String) : String := "set_" ++ String.ofList (withoutRaws member.toList)

def Write.lexemes : Write → List Lexeme
  | .field member value =>
      words resultName ++ sign "." ++ words member ++ sign "=" ++ value.lexemes ++ sign ";"
  | .property member value =>
      words resultName ++ method (setterName member) value.lexemes ++ sign ";"

def Body.lexemes (body : Body) : List Lexeme :=
  if body.writes.isEmpty then body.creation.lexemes
  else
    words "let mut" ++ words resultName ++ sign "=" ++ body.creation.lexemes ++ sign ";" ++
      body.writes.flatMap Write.lexemes ++ words resultName

namespace Scope

def write (scope : Scope) (assignment : MemberAssignment) : Except GenerationFault Write := do
  let value ← scope.value assignment.expr
  let member ← identifier assignment.member
  match assignment.kind with
  | .field => .ok (.field member value)
  | .property => do
      let _ ← identifier (setterName member)
      .ok (.property member value)

/-- A field of the struct literal with the value that the plan assigns to it. -/
def fieldValue (scope : Scope) (plan : Plan) (member : Member) :
    Except GenerationFault FieldValue := do
  let name ← identifier member.name
  match plan.assignment? member.name with
  | some assignment => do
      let value ← scope.value assignment.expr
      .ok ⟨name, some value⟩
  | none => .ok ⟨name, none⟩

/-- Whether a member is one of the fields that the struct literal names. -/
def isLiteralField (member : Member) : Bool := member.kind == .field && !member.inherited

/-- Whether the struct literal leaves the member to a later write. -/
def isWrittenLater (destination : StructType) (assignment : MemberAssignment) : Bool :=
  (destination.member? assignment.member).any fun member => !isLiteralField member

/-- The body for a plan with the given constructor. -/
def bodyWith (scope : Scope) (plan : Plan) (constructor : ConstructorPlan)
    (destination : TypeDescriptor × StructType) : Except GenerationFault Body := do
  let (descriptor, type) := destination
  let ident ← identifier descriptor.ident
  match constructor.constructor with
  | .literal => do
      let fields ← (type.members.filter isLiteralField).mapM (scope.fieldValue plan)
      let writes ← (plan.assignments.filter (isWrittenLater type)).mapM scope.write
      .ok ⟨.literal ident fields, writes⟩
  | .function name _ => do
      let function ← identifier name
      let arguments ← constructor.arguments.mapM fun argument => scope.value argument.expr
      let writes ← plan.assignments.mapM scope.write
      .ok ⟨.call ident function arguments, writes⟩

end Scope

end ObjectMapping.Rendering
