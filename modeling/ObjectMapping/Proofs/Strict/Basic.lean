/-
This file resolves requests strictly: what a resolution asks the schema for by an id, a list by a place and the
registry by a key has to be there, or the resolution breaks off.
-/

import ObjectMapping.Resolution.Resolve

namespace ObjectMapping

/-- What is missing where a resolution breaks off. -/
inductive Panic
  | type (id : TypeId)
  | place (index : Nat)
  | function (key : EnumKey)
  deriving Repr, DecidableEq

namespace Strict

/-- The item at a place, which has to be in the list. -/
def item {α : Type} (items : List α) (place : Nat) : Except Panic α :=
  match items[place]? with
  | some found => .ok found
  | none => .error (.place place)

/-- The item at the place that a table gives, if it gives one. -/
def item? {α : Type} (items : List α) : Option Nat → Except Panic (Option α)
  | some place => (item items place).map some
  | none => .ok none

def member? (type : StructType) (name : String) : Except Panic (Option Member) :=
  item? type.members (type.places.lookup name)

def memberIgnoringCase? (type : StructType) (name : String) : Except Panic (Option Member) :=
  item? type.members (type.placesIgnoringCase.lookup (Text.lower name))

/-- The type behind an id, which has to be one of the schema. -/
def descriptor (schema : Schema) (id : TypeId) : Except Panic TypeDescriptor :=
  match schema.get? id with
  | some found => .ok found
  | none => .error (.type id)

/-- The function for a conversion, which is read from the registry after it may have been added. -/
def register (schema : Schema) (registry : EnumRegistry) (key : EnumKey) :
    Except Panic (EnumRegistry × String) := do
  let extended ←
    match registry.get? key with
    | some _ => .ok registry
    | none => do
        let source ← descriptor schema key.source
        let destination ← descriptor schema key.destination
        let name := registry.freshName source.name.snakeCase destination.name.snakeCase
        .ok ⟨registry.functions ++ [⟨name, key, source.variants?.getD []⟩]⟩
  match extended.get? key with
  | some function => .ok (extended, function.name)
  | none => .error (.function key)

section

variable (task : MappingTask)

def sourceParam : Except Panic String := item task.params 0

def read (member : Member) : Except Panic Expr := do
  let param ← sourceParam task
  .ok (.member param member.name member.kind member.type)

def sourceMember? (name : String) : Except Panic (Option Member) := do
  let found ← member? task.sourceStruct name
  .ok (found.filter (·.readable))

def elementName (element : TypeRef) : Except Panic String := do
  let base ←
    match element.nonNullable with
    | .named id => do
        let found ← descriptor task.schema id
        .ok found.name.snakeCase
    | _ => .ok "item"
  .ok (if task.params.contains base then s!"{base}_item" else base)

def enumCall (registry : EnumRegistry) (key : EnumKey) (value : Expr) : Except Panic (EnumRegistry × Expr) := do
  let (extended, function) ← register task.schema registry key
  .ok (extended, .enumConvert function value)

def convertElement (registry : EnumRegistry) (value : Expr) :
    ElementRelation → Except Panic (EnumRegistry × Expr)
  | .exact => .ok (registry, value)
  | .enum key => enumCall task registry key value
  | .implicit conversion => .ok (registry, conversion.apply value)

def convert? (registry : EnumRegistry) (value : Expr) (source destination : TypeRef) :
    TypeRelation → Except Panic (Option (EnumRegistry × Expr))
  | .exact => .ok (some (registry, value))
  | .enum key => do
      let called ← enumCall task registry key value
      .ok (some called)
  | .implicit conversion => .ok (some (registry, conversion.apply value))
  | .collection relation target =>
      match source.element? with
      | none => .ok none
      | some element => do
          let binder ← elementName task element
          let (extended, transform) ← convertElement task registry (.item binder element) relation
          .ok (some (extended, .collect value binder transform target))
  | .delegated delegation =>
      if delegation.perElement then
        match source.element? with
        | none => .ok none
        | some element => do
            let binder ← elementName task element
            let transform := task.delegateCall delegation (.item binder element)
            .ok (some (registry,
              .collect value binder transform (destination.collectionKind?.getD .vec)))
      else .ok (some (registry, task.delegateCall delegation value))
  | .nullableMismatch | .enumMismatch _ _ | .incompatible => .ok none

/-- The members of the destination that the parameters of a constructor name. -/
def claims (constructor : Constructor) : Except Panic (List String) :=
  constructor.parameters.foldlM (fun claimed parameter => do
    match ← memberIgnoringCase? task.destinationStruct parameter.name with
    | some member => .ok (if claimed.contains member.name then claimed else claimed ++ [member.name])
    | none => .ok claimed) []

def writtenArgument (pair : Parameter × Transform) : Except Panic (Except Diagnostic ConstructorArgument) := do
  let param ← sourceParam task
  match pair.2.inline? task.params false param with
  | some text => .ok (.ok ⟨pair.1.name, .verbatim text⟩)
  | none => .ok (.error (.error pair.2.location (.closureBlock DirectiveName.useConstructor.text)))

def explicitConstructor (constructor : Constructor) (arguments : List Transform) :
    Except Panic ConstructorResult := do
  let claimed ← claims task constructor
  let values ← (constructor.parameters.zip arguments).mapM (writtenArgument task)
  let diagnostics := values.filterMap fun value =>
    match value with
    | .ok _ => none
    | .error diagnostic => some diagnostic
  .ok (if diagnostics.isEmpty then
    .call .explicitParameterized constructor (values.filterMap (·.toOption)) claimed
  else ⟨none, .requiredButMissingError, claimed, diagnostics⟩)

def feed? (parameter : Parameter) : Except Panic (Option MatchedParameter) := do
  let named ← memberIgnoringCase? task.sourceStruct parameter.name
  .ok ((named.filter (·.readable)).bind fun member =>
    let relation := task.relation member.type parameter.type
    if relation.isCompatible then some ⟨parameter, member, relation⟩ else none)

/-- Parameters are fed in turn up to the first that cannot be. -/
def feedAll : List Parameter → Except Panic (Option (List MatchedParameter))
  | [] => .ok (some [])
  | parameter :: rest => do
      match ← feed? task parameter with
      | none => .ok none
      | some found => do
          let others ← feedAll rest
          .ok (others.map (found :: ·))

def buildArguments (registry : EnumRegistry) :
    List MatchedParameter → Except Panic (EnumRegistry × List ConstructorArgument)
  | [] => .ok (registry, [])
  | found :: rest => do
      let value ← read task found.member
      match ← convert? task registry value found.member.type found.parameter.type found.relation with
      | some (extended, expr) => do
          let (final, arguments) ← buildArguments extended rest
          .ok (final, ⟨found.parameter.name, expr⟩ :: arguments)
      | none => buildArguments registry rest

def onlyConstructor (registry : EnumRegistry) (constructor : Constructor) :
    Except Panic (EnumRegistry × ConstructorResult) := do
  match ← feedAll task constructor.parameters with
  | some found => do
      let (extended, arguments) ← buildArguments task registry found
      let claimed ← claims task constructor
      .ok (extended, .call .autoSingleParameterizedMapped constructor arguments claimed)
  | none =>
      .ok (registry, .refused .requiredButMissingError (.error task.request.method.location
        (.parameterizedConstructorRequired task.destination.ident task.constructorTexts)))

def inferConstructor (registry : EnumRegistry) : Except Panic (EnumRegistry × ConstructorResult) :=
  let location := task.request.method.location
  match task.destinationStruct.constructors with
  | [] =>
      .ok (registry, .refused .noConstructor
        (.error location (.noAccessibleConstructor task.destination.ident)))
  | [constructor] =>
      if constructor.isParameterless then
        .ok (registry, .call .autoSingleParameterless constructor [] [])
      else onlyConstructor task registry constructor
  | _ =>
      .ok (registry, .refused .ambiguousError
        (.error location (.ambiguousConstructor task.destination.ident task.constructorTexts)))

def resolveConstructor (registry : EnumRegistry) : Except Panic (EnumRegistry × ConstructorResult) :=
  let constructors := task.destinationStruct.constructors
  match task.request.directives.constructor with
  | none => inferConstructor task registry
  | some (.empty location) =>
      .ok (registry,
        match constructors.find? (·.isParameterless) with
        | some constructor => .call .explicitEmpty constructor [] []
        | none =>
            .refused .requiredButMissingError (.error location
              (.emptyConstructorNotPossible task.destination.ident task.constructorTexts)))
  | some (.arguments arguments location) =>
      match constructors.find? (·.parameters.length == arguments.length) with
      | some constructor => do
          let result ← explicitConstructor task constructor arguments
          .ok (registry, result)
      | none =>
          .ok (registry, .refused .requiredButMissingError (.error location
            (.constructorArgumentCount task.destination.ident arguments.length
              task.constructorTexts)))

def mappedByUser (custom : MapMember) : Except Panic Verdict := do
  let param ← sourceParam task
  match custom.source.inline? task.params false param with
  | some text => .ok (.assigned (.verbatim text))
  | none => .ok (MappingTask.refuseBlock custom.source.location .mapMember)

def elementBinder (element : Option TypeRef) : Except Panic String :=
  match element with
  | some type => elementName task type
  | none => .ok "item"

def binderOf (transform : Transform) (element : Option TypeRef) : Except Panic String :=
  match transform with
  | .closure closure =>
      match closure.firstParam? with
      | some name => .ok name
      | none => elementBinder task element
  | .path _ _ => elementBinder task element

def collected (directive : MapCollection) (element : Option TypeRef) (collect : String → Expr → Expr) :
    Except Panic Verdict := do
  let binder ← binderOf task directive.item element
  match directive.item.inline? task.params true binder with
  | some transform => .ok (.assigned (collect binder (.verbatim transform)))
  | none => .ok (MappingTask.refuseBlock directive.item.location .mapCollection)

def collectedByUser? (member : Member) (directive : MapCollection) : Except Panic (Option Verdict) :=
  let target := member.type.collectionKind?.getD .vec
  match directive.source with
  | some source => do
      let param ← sourceParam task
      match source.inline? task.params false param with
      | some text => do
          let verdict ← collected task directive none fun binder transform =>
            .collectVerbatim text binder transform target
          .ok (some verdict)
      | none => .ok (some (MappingTask.refuseBlock source.location .mapCollection))
  | none => do
      match ← sourceMember? task member.name with
      | none => .ok none
      | some sourceMember => do
          let value ← read task sourceMember
          let verdict ← collected task directive sourceMember.type.element? fun binder transform =>
            .collect value binder transform target
          .ok (some verdict)

def mismatch (member sourceMember : Member) : TypeRelation → Except Panic Finding
  | .nullableMismatch => .ok (.nullableMismatch (task.memberPair member (some sourceMember.type)))
  | .enumMismatch id missing => do
      let found ← descriptor task.schema id
      .ok (.enumMemberMismatch (task.memberPair member (some sourceMember.type)) found.ident missing)
  | _ => .ok (.typeMismatch (task.memberPair member (some sourceMember.type)))

def infer (registry : EnumRegistry) (member : Member) : Except Panic (EnumRegistry × Verdict) := do
  let location := task.request.method.location
  match ← sourceMember? task member.name with
  | none =>
      .ok (registry, .diagnosed (.error location (.missingMember (task.memberPair member none))))
  | some sourceMember => do
      let relation := task.relation sourceMember.type member.type
      let value ← read task sourceMember
      match ← convert? task registry value sourceMember.type member.type relation with
      | some (extended, expr) => .ok (extended, .assigned expr)
      | none => do
          let finding ← mismatch task member sourceMember relation
          .ok (registry, .diagnosed (.error location finding))

def resolveMember (registry : EnumRegistry) (member : Member) : Except Panic (EnumRegistry × Verdict) :=
  let directives := task.request.directives
  if member.system then .ok (registry, .ignored .system)
  else if !member.settable then .ok (registry, .ignored .notSettable)
  else
    match directives.ignore? member.name with
    | some ignore => .ok (registry, MappingTask.ignoredByUser member ignore)
    | none =>
        match directives.mapMember? member.name with
        | some custom => do
            let verdict ← mappedByUser task custom
            .ok (registry, verdict)
        | none =>
            match directives.collection? member.name with
            | none => infer task registry member
            | some directive => do
                match ← collectedByUser? task member directive with
                | some verdict => .ok (registry, verdict)
                | none => infer task registry member

def settle (claimed : List String) (registry : EnumRegistry) (member : Member) :
    Except Panic (EnumRegistry × Verdict) :=
  if claimed.contains member.name then .ok (registry, .claimed) else resolveMember task registry member

def resolveMembers (claimed : List String) (registry : EnumRegistry) :
    List Member → Except Panic (EnumRegistry × List MemberResult)
  | [] => .ok (registry, [])
  | member :: rest => do
      let (extended, verdict) ← settle task claimed registry member
      let (final, results) ← resolveMembers claimed extended rest
      .ok (final, ⟨member, verdict⟩ :: results)

def registerPair (registry : EnumRegistry) (pair : MapEnum) :
    Except Panic (EnumRegistry × Option Diagnostic) := do
  let source ← descriptor task.schema pair.source
  let destination ← descriptor task.schema pair.destination
  match source.variants?, destination.variants? with
  | some sourceVariants, some destinationVariants =>
      let missing := TypeRelation.missingVariants sourceVariants destinationVariants
      if missing.isEmpty then do
        let (extended, _) ← register task.schema registry ⟨pair.source, pair.destination, false, false⟩
        .ok (extended, none)
      else do
        let sourceNamed ← descriptor task.schema pair.source
        let destinationNamed ← descriptor task.schema pair.destination
        .ok (registry, some (.error pair.location
          (.enumPairMismatch sourceNamed.ident destinationNamed.ident missing)))
  | _, _ => .ok (registry, none)

def registerPairs (registry : EnumRegistry) : List MapEnum → Except Panic (EnumRegistry × List Diagnostic)
  | [] => .ok (registry, [])
  | pair :: rest => do
      let (extended, diagnostic) ← registerPair task registry pair
      let (final, diagnostics) ← registerPairs extended rest
      .ok (final, diagnostic.toList ++ diagnostics)

def resolveTask : Except Panic Resolution := do
  let (paired, pairDiagnostics) ← registerPairs task .empty task.request.directives.enums
  let (fed, constructor) ← resolveConstructor task paired
  let (final, members) ← resolveMembers task constructor.claimed fed task.destinationStruct.members
  .ok {
    plan :=
      { constructor := constructor.plan
        state := constructor.state
        assignments := members.filterMap (·.assignment?)
        outcomes := members.map (·.outcome)
        enumFunctions := final.functions }
    diagnostics :=
      pairDiagnostics ++ constructor.diagnostics ++ members.filterMap (·.verdict.diagnostic?) }

/-- The first directive whose member the struct does not have. -/
def stray? (type : StructType) : List (String × Location) → Except Panic (Option (String × Location))
  | [] => .ok none
  | target :: rest => do
      match ← member? type target.1 with
      | some _ => stray? type rest
      | none => .ok (some target)

end

section

variable (request : Request) (schema : Schema)

def enumFault? (id : TypeId) : Except Panic (Option Fault) :=
  match schema.get? id with
  | none => .ok (some (.unknownType id.text))
  | some found =>
      match found.kind with
      | .enum _ => .ok none
      | .struct _ => do
          let named ← descriptor schema id
          .ok (some (.ofCause (request.refusal s!"`{named.ident}` in map_enum is not an enum")))

def enumsFault? : List TypeId → Except Panic (Option Fault)
  | [] => .ok none
  | id :: rest => do
      match ← enumFault? request schema id with
      | some fault => .ok (some fault)
      | none => enumsFault? rest

/-- What is decided without a look-up that could break off. -/
def decided {α : Type} (result : Except Fault α) : ExceptT Fault (Except Panic) α := ExceptT.mk (.ok result)

def toTask : ExceptT Fault (Except Panic) MappingTask := do
  let (sourceParam, sourceId) ← decided request.sourceParam
  let (source, sourceStruct) ← decided (request.expectStruct schema "source" sourceId)
  let destinationId ← decided request.destinationType
  let (destination, destinationStruct) ← decided (request.expectStruct schema "destination" destinationId)
  match ← ExceptT.lift (stray? destinationStruct request.directives.targets) with
  | some (member, _) =>
      decided (.error (.ofCause (request.refusal s!"`{destination.ident}` has no member `{member}`")))
  | none =>
      let enums := request.directives.enums.flatMap fun pair => [pair.source, pair.destination]
      match ← ExceptT.lift (enumsFault? request schema enums) with
      | some fault => decided (.error fault)
      | none =>
          decided (.ok ⟨schema, request, source, sourceStruct, destination, destinationStruct, sourceParam⟩)

/-- The plan for a request, unless the request is malformed or the resolution breaks off. -/
def resolve : ExceptT Fault (Except Panic) Resolution := do
  let task ← toTask request schema
  ExceptT.lift (resolveTask task)

end

end Strict

end ObjectMapping
