/-
This file reads the statements of a mapper's configuration. Each is the call of a directive; what is none
is reported as a diagnostic.
-/

import ObjectMapping.Host.Basic
import ObjectMapping.Mapper.Transform

namespace ObjectMapping.Mapper

open Source

/-- The name of a mapper that another one includes. -/
structure Inclusion where
  name : String
  location : Location
  deriving Repr, DecidableEq

/-- What one statement says. -/
inductive Instruction
  | mapMember (directive : MapMember)
  | ignoreMember (directive : IgnoreMember)
  | mapCollection (directive : MapCollection)
  | chooseConstructor (choice : ConstructorChoice)
  | includeMappers (inclusions : List Inclusion)
  | mapEnum (directive : MapEnum)
  /-- The statement is no call of a directive. -/
  | none (location : Location)

/-- The value expressions that an instruction gives. -/
def Instruction.transforms : Instruction → List Transform
  | .mapMember directive => [directive.source]
  | .mapCollection directive => directive.source.toList ++ [directive.item]
  | .chooseConstructor (.arguments values _) => values
  | _ => []

/-- The call of a directive. -/
structure DirectiveCall where
  directive : DirectiveName
  /-- The tokens of the whole call. -/
  tokens : List Token
  typeArguments : List WrittenType
  /-- The tokens of the type arguments; there are none where the call has no list of them. -/
  typeTokens : List Token
  arguments : List Expression

namespace DirectiveCall

def location (call : DirectiveCall) : Location := tokensLocation call.tokens

def refuse {α : Type} (call : DirectiveCall) (problem : DirectiveProblem) : Except Problem α :=
  .error (directiveProblem call.tokens problem)

/-- The call that an expression is, if a plain name of a directive stands in front of the arguments. -/
def ofExpression? : Expression → Option DirectiveCall
  | .call tokens (.path _ head typeArguments typeTokens) arguments =>
      if !head.isQualified && !head.isRooted && head.segments == 1 then
        (DirectiveName.ofText? head.last).map fun directive =>
          ⟨directive, tokens, typeArguments, typeTokens, arguments⟩
      else
        Option.none
  | _ => Option.none

end DirectiveCall

/-- The mapper that an expression names; the name is its last token. -/
def inclusion (expression : Expression) : Except Problem Inclusion :=
  match expression with
  | .path tokens head _ _ =>
      match head.ident? with
      | some name => .ok ⟨name, tokensLocation (tokens.drop (tokens.length - 1))⟩
      | none => .error (directiveProblem expression.tokens .noMapperName)
  | _ => .error (directiveProblem expression.tokens .noMapperName)

/-- The elements of an array, or the expression alone. -/
def elements : Expression → List Expression
  | .array _ elements => elements
  | expression => [expression]

/-- The enum that a type argument names. -/
def enumType (host : Host) (type : WrittenType) : Except Problem TypeId :=
  match type.ident?.bind host.names with
  | some id =>
      if (host.schema.variants? id).isSome then .ok id
      else .error (directiveProblem type.tokens .structForEnum)
  | none => .error (directiveProblem type.tokens .unknownEnum)

def mapEnum (host : Host) (call : DirectiveCall) : Except Problem Instruction :=
  if !call.arguments.isEmpty then call.refuse (.arguments .mapEnum)
  else if call.typeTokens.isEmpty then call.refuse .noEnumTypes
  else
    match call.typeArguments with
    | [source, destination] => do
        let sourceId ← enumType host source
        let destinationId ← enumType host destination
        .ok (.mapEnum ⟨sourceId, destinationId, call.location⟩)
    | _ => .error (directiveProblem call.typeTokens .enumTypeCount)

/-- The instruction that the call of a directive gives. -/
def instructionOfCall (host : Host) (call : DirectiveCall) : Except Problem Instruction :=
  if call.directive != .mapEnum && !call.typeTokens.isEmpty then
    .error (directiveProblem call.typeTokens (.typeArguments call.directive))
  else
    match call.directive, call.arguments with
    | .mapMember, [member, source] => do
        let name ← selector member
        let value ← transform source
        .ok (.mapMember ⟨name, value, call.location⟩)
    | .ignoreMember, [member] => do
        let name ← selector member
        .ok (.ignoreMember ⟨name, call.location⟩)
    | .mapCollection, [member, item] => do
        let name ← selector member
        let element ← transform item
        .ok (.mapCollection ⟨name, none, element, call.location⟩)
    | .mapCollection, [member, source, item] => do
        let value ← transform source
        let name ← selector member
        let element ← transform item
        .ok (.mapCollection ⟨name, some value, element, call.location⟩)
    | .useConstructor, arguments => do
        let values ← arguments.mapM transform
        .ok (.chooseConstructor (.arguments values call.location))
    | .useEmptyConstructor, [] => .ok (.chooseConstructor (.empty call.location))
    | .includeMappers, [mappers] => do
        let inclusions ← (elements mappers).mapM inclusion
        .ok (.includeMappers inclusions)
    | .mapEnum, _ => mapEnum host call
    | directive, _ => call.refuse (.arguments directive)

/-- What a statement says. -/
def instruction (host : Host) (statement : Statement) : Except Problem Instruction :=
  match statement with
  | .expression _ value _ =>
      match DirectiveCall.ofExpression? value with
      | some call => instructionOfCall host call
      | none => .ok (.none statement.location)
  | .other _ => .ok (.none statement.location)

/-- Where a statement is reported: a directive at its call, anything else as a whole. -/
def statementLocation (statement : Statement) : Location :=
  match statement with
  | .expression _ value _ =>
      match DirectiveCall.ofExpression? value with
      | some call => call.location
      | none => statement.location
  | .other _ => statement.location

end ObjectMapping.Mapper
