/-
This file reads the declarations of mappers: traits with a mapping method and a configuration.
-/

import ObjectMapping.Mapper.Configuration
import ObjectMapping.Request

namespace ObjectMapping

open Source

/-- A declared mapper. -/
structure Mapper where
  /-- The name, which the generated struct gets as well. -/
  name : String
  location : Location
  visibility : List Token
  /-- The mapping method as it is written, without a receiver. -/
  signature : Signature
  method : MapperMethod
  directives : Directives
  /-- The mappers that the mapper includes, in the order of inclusion. -/
  inclusions : List Mapper.Inclusion
  /-- What is wrong with the declaration itself. -/
  diagnostics : List Diagnostic
  /-- Where everything stands that diagnostics can be reported at, in the order of reading. -/
  locations : List Location

namespace Mapper

def isMapper (item : TraitItem) : Bool := item.attributes.any (·.isNamed "mapper")

def mapperProblem (location : Location) (problem : MapperProblem) : Problem :=
  ⟨location, .mapper problem⟩

def methodParam (host : Host) (pattern : Pattern) (type : WrittenType) :
    Except Problem Parameter :=
  match pattern with
  | .name _ binder => .ok ⟨binder, TypeRef.behindBorrow host.names type⟩
  | _ => .error (mapperProblem (tokensLocation pattern.tokens) .patternParameter)

/-- The method that a signature declares. -/
def mappingMethod (host : Host) (signature : Signature) : Except Problem MapperMethod :=
  match signature.receiver?, signature.inputs, signature.result with
  | some input, _, _ => .error (mapperProblem (tokensLocation input.tokens) .receiver)
  | none, [], _ => .error (mapperProblem signature.location .noSource)
  | none, _ :: _, none => .error (mapperProblem signature.location .noDestination)
  | none, _ :: _, some result => do
      let params ← (Host.typedInputs signature).mapM fun (pattern, type) => methodParam host pattern type
      .ok ⟨signature.name, params, TypeRef.ofWritten host.names result, signature.nameLocation⟩

/-- What the members of a mapper trait have given so far. -/
structure Members where
  method : Option (Signature × MapperMethod)
  /-- The statements of the configuration. -/
  configuration : List Statement
  diagnostics : List Diagnostic
  locations : List Location

namespace Members

def none : Members := ⟨.none, [], [], []⟩

/-- Adds a diagnostic, whose location is kept. -/
def report (members : Members) (location : Location) (finding : Finding) : Members :=
  { members with
    diagnostics := members.diagnostics ++ [.error location finding]
    locations := members.locations ++ [location] }

/-- Adds the configuration, which takes no parameters. -/
def configure (mapper : String) (members : Members) (signature : Signature)
    (body : List Statement) : Members :=
  let reported :=
    if signature.inputs.isEmpty then members
    else members.report (tokensLocation signature.inputTokens) (.mapperConstructorWithParameters mapper)
  { reported with configuration := body }

/-- Adds the mapping method, whose location is kept. -/
def declare (members : Members) (signature : Signature) (method : MapperMethod) : Members :=
  { members with
    method := some (signature, method)
    locations := members.locations ++ [method.location] }

/-- Adds a member of the trait: the configuration is the function `new` with a body, and the first
function without a body is the mapping method. -/
def add (host : Host) (mapper : String) (checked : Checked Members) (member : TraitMember) :
    Checked Members :=
  let refuse (location : Location) (problem : MapperProblem) : Checked Members :=
    { checked with problems := checked.problems ++ [mapperProblem location problem] }
  match member with
  | .other tokens => refuse (tokensLocation tokens) .foreignMember
  | .function _ signature (some body) =>
      if signature.name == "new" then
        { checked with value := checked.value.configure mapper signature body }
      else
        refuse signature.nameLocation .bodyOnMethod
  | .function _ signature .none =>
      if checked.value.method.isSome then
        { checked with
          value := checked.value.report signature.nameLocation
            (.multipleMappingMethods mapper signature.name) }
      else
        match mappingMethod host signature with
        | .ok method => { checked with value := checked.value.declare signature method }
        | .error problem => { checked with problems := checked.problems ++ [problem] }

end Members

/-- The mapper that a trait declares. -/
def ofTrait (host : Host) (item : TraitItem) : Except (List Problem) Mapper :=
  if item.isGeneric then
    .error [mapperProblem (tokensLocation item.generics) .generic]
  else do
    let members := item.members.foldl (Members.add host item.name) ⟨.none, []⟩
    let configuration := Configuration.ofStatements host item.name members.value.configuration
    let (found, configured) ← Checked.toExcept
      ⟨(members.value, configuration.value), members.problems ++ configuration.problems⟩
    match found.method with
    | none => .error [mapperProblem item.location (.noMethod item.name)]
    | some (signature, method) =>
        .ok
          { name := item.name
            location := item.location
            visibility := item.visibility
            signature := signature
            method := method
            directives := configured.directives
            inclusions := configured.inclusions
            diagnostics := found.diagnostics ++ configured.diagnostics
            locations := found.locations ++ configured.locations }

/-- The name of the field that holds the mapper inside the mappers that include it. -/
def fieldName (mapper : Mapper) : String := (Name.ofText mapper.name).snakeCase

/-- The mapper as those that include it see it. -/
def asIncluded (mapper : Mapper) : IncludedMapper :=
  ⟨mapper.name, mapper.fieldName,
    [⟨mapper.method.name, mapper.method.params.map (·.type), mapper.method.result⟩]⟩

end Mapper

end ObjectMapping
