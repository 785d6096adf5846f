/-
This file defines mapping requests, one for each mapping method, and checks that a request is well
formed before it is resolved.
-/

import ObjectMapping.Delegation
import ObjectMapping.Directive
import ObjectMapping.Schema.Basic

namespace ObjectMapping

/-- A mapping method: the source comes first, further parameters after it. The types are those behind
the borrows. -/
structure MapperMethod where
  name : String
  params : List Parameter
  result : TypeRef
  location : Location
  deriving Repr, DecidableEq

structure Request where
  mapper : String
  method : MapperMethod
  directives : Directives
  /-- The mappers that nested values can be handed to. -/
  delegates : List IncludedMapper
  deriving Repr, DecidableEq

/-- A request with the two structs of the schema that it maps between. -/
structure MappingTask where
  schema : Schema
  request : Request
  source : TypeDescriptor
  sourceStruct : StructType
  destination : TypeDescriptor
  destinationStruct : StructType
  /-- The name of the parameter that holds the source. -/
  sourceParam : String
  deriving Repr, DecidableEq

namespace Request

def refusal (request : Request) (message : String) : Cause :=
  .invalidRequest request.mapper message

def paramNames (request : Request) : List String := request.method.params.map (·.name)

/-- The parameter that holds the source and the struct that is its type. -/
def sourceParam (request : Request) : Except Fault (String × TypeId) :=
  match request.method.params with
  | [] =>
      .error (.ofCause (request.refusal
        s!"`{request.method.name}` must take the source object as its first parameter"))
  | ⟨name, .named id⟩ :: _ => .ok (name, id)
  | _ :: _ =>
      .error (.ofCause (request.refusal
        s!"source parameter of `{request.method.name}` must be a declared struct"))

def destinationType (request : Request) : Except Fault TypeId :=
  match request.method.result with
  | .named id => .ok id
  | _ =>
      .error (.ofCause (request.refusal
        s!"return type of `{request.method.name}` must be a declared struct"))

/-- What is wrong with one side of an enum pair. -/
def enumFault? (request : Request) (schema : Schema) (id : TypeId) : Option Fault :=
  match schema.get? id with
  | none => some (.unknownType id.text)
  | some descriptor =>
      match descriptor.kind with
      | .enum _ => none
      | .struct _ =>
          some (.ofCause (request.refusal s!"`{descriptor.ident}` in map_enum is not an enum"))

/-- The struct behind an id; the fault says which side of the mapping it stands on. -/
def expectStruct (request : Request) (schema : Schema) (side : String) (id : TypeId) :
    Except Fault (TypeDescriptor × StructType) :=
  match schema.expectStruct id with
  | .ok found => .ok found
  | .error fault => .error (fault.within (request.refusal s!"invalid {side} type"))

/-- Checks the request: both sides are structs, directives name members of the destination, and enum
pairs are enums. -/
def toTask (request : Request) (schema : Schema) : Except Fault MappingTask := do
  let (sourceParam, sourceId) ← request.sourceParam
  let (source, sourceStruct) ← request.expectStruct schema "source" sourceId
  let destinationId ← request.destinationType
  let (destination, destinationStruct) ← request.expectStruct schema "destination" destinationId
  match request.directives.targets.find? fun (member, _) =>
      (destinationStruct.member? member).isNone with
  | some (member, _) =>
      .error (.ofCause (request.refusal s!"`{destination.ident}` has no member `{member}`"))
  | none =>
      let enums := request.directives.enums.flatMap fun pair => [pair.source, pair.destination]
      match enums.findSome? (request.enumFault? schema) with
      | some fault => .error fault
      | none =>
          .ok ⟨schema, request, source, sourceStruct, destination, destinationStruct, sourceParam⟩

end Request

end ObjectMapping
