/-
This file decides how the destination is created: by the constructor that the user chose, or by the
only one there is.
-/

import ObjectMapping.Plan
import ObjectMapping.Resolution.Convert

namespace ObjectMapping

/-- How the destination is created, with the members that this settles. Members stay claimed when
the call cannot be made, so that they are not reported twice. -/
structure ConstructorResult where
  plan : Option ConstructorPlan
  state : ConstructorState
  claimed : List String
  diagnostics : List Diagnostic
  deriving Repr

/-- A parameter and the source member that it is fed from. -/
structure MatchedParameter where
  parameter : Parameter
  member : Member
  relation : TypeRelation
  deriving Repr

namespace ConstructorResult

def call (state : ConstructorState) (constructor : Constructor)
    (arguments : List ConstructorArgument) (claimed : List String) : ConstructorResult :=
  ⟨some ⟨constructor, arguments, claimed⟩, state, claimed, []⟩

def refused (state : ConstructorState) (diagnostic : Diagnostic) : ConstructorResult :=
  ⟨none, state, [], [diagnostic]⟩

end ConstructorResult

namespace MappingTask

def constructorTexts (task : MappingTask) : String :=
  task.schema.signatures task.destination.ident task.destinationStruct.constructors

/-- The members of the destination that the parameters name, ignoring case, each once. -/
def claims (task : MappingTask) (constructor : Constructor) : List String :=
  constructor.parameters.foldl (fun claimed parameter =>
    match task.destinationStruct.memberIgnoringCase? parameter.name with
    | some member => if claimed.contains member.name then claimed else claimed ++ [member.name]
    | none => claimed) []

/-- Feeds the parameters with the user's arguments in order. -/
def explicitConstructor (task : MappingTask) (constructor : Constructor)
    (arguments : List Transform) : ConstructorResult :=
  let claimed := task.claims constructor
  let values := (constructor.parameters.zip arguments).map fun (parameter, argument) =>
    match argument.inline? task.params false task.sourceParam with
    | some text => Except.ok (⟨parameter.name, .verbatim text⟩ : ConstructorArgument)
    | none =>
        .error (Diagnostic.error argument.location (.closureBlock DirectiveName.useConstructor.text))
  let diagnostics := values.filterMap fun value =>
    match value with
    | .ok _ => none
    | .error diagnostic => some diagnostic
  if diagnostics.isEmpty then
    .call .explicitParameterized constructor (values.filterMap (·.toOption)) claimed
  else ⟨none, .requiredButMissingError, claimed, diagnostics⟩

/-- The readable source member that can feed a parameter; its name may differ in case. -/
def feed? (task : MappingTask) (parameter : Parameter) : Option MatchedParameter :=
  ((task.sourceStruct.memberIgnoringCase? parameter.name).filter (·.readable)).bind fun member =>
    let relation := task.relation member.type parameter.type
    if relation.isCompatible then some ⟨parameter, member, relation⟩ else none

/-- The arguments for matched parameters. -/
def buildArguments (task : MappingTask) (registry : EnumRegistry) :
    List MatchedParameter → EnumRegistry × List ConstructorArgument
  | [] => (registry, [])
  | found :: rest =>
      match task.convert? registry (task.read found.member) found.member.type found.parameter.type
          found.relation with
      | some (extended, expr) =>
          let (final, arguments) := task.buildArguments extended rest
          (final, ⟨found.parameter.name, expr⟩ :: arguments)
      | none => task.buildArguments registry rest

/-- Feeds the parameters of the only constructor from the source. Nothing is converted unless every
parameter can be fed. -/
def onlyConstructor (task : MappingTask) (registry : EnumRegistry) (constructor : Constructor) :
    EnumRegistry × ConstructorResult :=
  match constructor.parameters.mapM task.feed? with
  | some found =>
      let (extended, arguments) := task.buildArguments registry found
      (extended, .call .autoSingleParameterizedMapped constructor arguments
        (task.claims constructor))
  | none =>
      (registry, .refused .requiredButMissingError (.error task.request.method.location
        (.parameterizedConstructorRequired task.destination.ident task.constructorTexts)))

/-- Decides without a word from the user. -/
def inferConstructor (task : MappingTask) (registry : EnumRegistry) :
    EnumRegistry × ConstructorResult :=
  let location := task.request.method.location
  match task.destinationStruct.constructors with
  | [] =>
      (registry, .refused .noConstructor
        (.error location (.noAccessibleConstructor task.destination.ident)))
  | [constructor] =>
      if constructor.isParameterless then
        (registry, .call .autoSingleParameterless constructor [] [])
      else task.onlyConstructor registry constructor
  | _ =>
      (registry, .refused .ambiguousError
        (.error location (.ambiguousConstructor task.destination.ident task.constructorTexts)))

def resolveConstructor (task : MappingTask) (registry : EnumRegistry) :
    EnumRegistry × ConstructorResult :=
  let constructors := task.destinationStruct.constructors
  match task.request.directives.constructor with
  | none => task.inferConstructor registry
  | some (.empty location) =>
      (registry,
        match constructors.find? (·.isParameterless) with
        | some constructor => .call .explicitEmpty constructor [] []
        | none =>
            .refused .requiredButMissingError (.error location
              (.emptyConstructorNotPossible task.destination.ident task.constructorTexts)))
  | some (.arguments arguments location) =>
      (registry,
        match constructors.find? (·.parameters.length == arguments.length) with
        | some constructor => task.explicitConstructor constructor arguments
        | none =>
            .refused .requiredButMissingError (.error location
              (.constructorArgumentCount task.destination.ident arguments.length
                task.constructorTexts)))

end MappingTask

end ObjectMapping
