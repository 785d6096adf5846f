/-
This file renders mappers: a struct that holds the included mappers, its mapping method with the functions
that it calls, and a trait that offers the mapping as a method of the source.
-/

import ObjectMapping.Program.Basic
import ObjectMapping.Rendering.Body
import ObjectMapping.Rendering.EnumFunction

namespace ObjectMapping.Rendering

open Source

/-- A field of the generated struct, which holds an included mapper. -/
structure MapperField where
  name : String
  mapper : String
  deriving Repr, DecidableEq

/-- A parameter that the method of the source hands on to the mapping method. -/
structure ForwardedParameter where
  name : String
  type : List Token

/-- The mapping as a method of the source. -/
structure SourceMethod where
  /-- Whether the method borrows the source. -/
  borrows : Bool
  sourceType : List Token
  forwarded : List ForwardedParameter

structure RenderedMapper where
  name : String
  visibility : List Token
  fields : List MapperField
  signature : Signature
  body : Body
  conversions : List ConversionFunction
  sourceMethod : SourceMethod

namespace RenderedMapper

/-- The name of the trait that offers the mapping as a method of the source. -/
def traitName (mapper : RenderedMapper) : String :=
  String.ofList (withoutRaw mapper.name.toList) ++ "Ext"

/-- The names of the functions in the `impl` block of the generated struct. -/
def functionNames (mapper : RenderedMapper) : List String :=
  "new" :: mapper.signature.name :: mapper.conversions.map (·.name)

def structLexemes (mapper : RenderedMapper) : List Lexeme :=
  let fields := mapper.fields.map fun field => words field.name ++ sign ":" ++ words field.mapper
  sign "#" ++ brackets (words "derive" ++ parentheses (words "Debug" ++ sign "," ++ words "Clone")) ++
    lexemes mapper.visibility ++ words "struct" ++ words mapper.name ++ braces (commaEnded fields)

def newLexemes (mapper : RenderedMapper) : List Lexeme :=
  let fields := mapper.fields.map fun field =>
    words field.name ++ sign ":" ++ words field.mapper ++ sign "::" ++ words "new" ++ parentheses []
  words "pub fn new" ++ parentheses [] ++ sign "->" ++ words "Self" ++
    braces (words "Self" ++ braces (commaEnded fields))

/-- The mapping method, which gets a receiver in front of its parameters. -/
def methodLexemes (mapper : RenderedMapper) : List Lexeme :=
  let signature := mapper.signature
  allow "unused_variables" ++ words "pub" ++ lexemes signature.qualifiers ++ words "fn" ++
    words signature.name ++ lexemes signature.generics ++
    parentheses (sign "&" ++ words "self" ++ sign "," ++ lexemes signature.inputTokens) ++
    lexemes signature.resultTokens ++ lexemes signature.bounds ++ braces mapper.body.lexemes

/-- The head of the method of the source. -/
def sourceMethodHead (mapper : RenderedMapper) : List Lexeme :=
  let receiver := if mapper.sourceMethod.borrows then sign "&" ++ words "self" else words "self"
  let forwarded := mapper.sourceMethod.forwarded.map fun parameter =>
    words parameter.name ++ sign ":" ++ lexemes parameter.type
  words "fn" ++ words mapper.signature.name ++ lexemes mapper.signature.generics ++
    parentheses (commaSeparated (receiver :: forwarded)) ++
    lexemes mapper.signature.resultTokens ++ lexemes mapper.signature.bounds

def traitLexemes (mapper : RenderedMapper) : List Lexeme :=
  lexemes mapper.visibility ++ words "trait" ++ words mapper.traitName ++
    braces (mapper.sourceMethodHead ++ sign ";")

def implLexemes (mapper : RenderedMapper) : List Lexeme :=
  words "impl" ++ words mapper.name ++
    braces (mapper.newLexemes ++ mapper.methodLexemes ++
      mapper.conversions.flatMap ConversionFunction.lexemes)

def defaultImplLexemes (mapper : RenderedMapper) : List Lexeme :=
  words "impl" ++ rootedPath ["core", "default", "Default"] ++ words "for" ++ words mapper.name ++
    braces (words "fn default" ++ parentheses [] ++ sign "->" ++ words "Self" ++
      braces (words "Self" ++ sign "::" ++ words "new" ++ parentheses []))

def traitImplLexemes (mapper : RenderedMapper) : List Lexeme :=
  let arguments := words "self" :: mapper.sourceMethod.forwarded.map fun parameter =>
    words parameter.name
  words "impl" ++ words mapper.traitName ++ words "for" ++ lexemes mapper.sourceMethod.sourceType ++
    braces (mapper.sourceMethodHead ++
      braces (words mapper.name ++ sign "::" ++ words "new" ++ parentheses [] ++
        method mapper.signature.name (commaSeparated arguments)))

/-- The generated code; the `impl` blocks stand in a constant of their own. -/
def code (mapper : RenderedMapper) : List Lexeme :=
  mapper.structLexemes ++ mapper.traitLexemes ++ words "const _" ++ sign ":" ++ parentheses [] ++
    sign "=" ++
    braces (mapper.implLexemes ++ mapper.defaultImplLexemes ++ mapper.traitImplLexemes) ++ sign ";"

end RenderedMapper

def mapperField (included : Mapper) : Except GenerationFault MapperField := do
  let name ← identifier included.fieldName
  .ok ⟨name, included.name⟩

/-- A parameter of the mapping method with its type as it is written. -/
def namedInput (input : Pattern × WrittenType) : Except GenerationFault (String × WrittenType) :=
  match input with
  | (.name _ binder, type) => .ok (binder, type)
  | (pattern, _) => refuse (tokensLocation pattern.tokens) (.mapper .patternParameter)

/-- The method of the source: a source that the mapping borrows is borrowed by the method. -/
def sourceMethod (signature : Signature) : Except GenerationFault SourceMethod := do
  let inputs ← (Host.typedInputs signature).mapM namedInput
  match inputs with
  | [] => refuse signature.location (.mapper .noSource)
  | (_, source) :: others =>
      let forwarded := others.map fun (name, type) => ForwardedParameter.mk name type.tokens
      match source with
      | .reference _ false target => .ok ⟨true, target.tokens, forwarded⟩
      | type => .ok ⟨false, type.tokens, forwarded⟩

/-- The body of the mapping method. -/
def body (scope : Scope) (resolved : Program.ResolvedMapper) : Except GenerationFault Body :=
  let mapper := resolved.mapper
  match resolved.resolution.plan.constructor with
  | none => refuse mapper.signature.nameLocation (.rendering (.noConstructor mapper.name))
  | some constructor =>
      let destination := do
        let id ← (Program.request mapper resolved.included).destinationType
        scope.host.schema.expectStruct id
      match destination with
      | .ok found => scope.bodyWith resolved.resolution.plan constructor found
      | .error fault => refuse Location.startOfText (.fault fault)

/-- The code for a mapper whose plan was resolved without errors. -/
def renderMapper (host : Host) (resolved : Program.ResolvedMapper) :
    Except GenerationFault RenderedMapper := do
  let mapper := resolved.mapper
  let fields ← resolved.included.mapM mapperField
  let found ← body ⟨host, mapper.method.params⟩ resolved
  let conversions ← resolved.resolution.plan.enumFunctions.mapM (renderFunction host.schema)
  let offered ← sourceMethod mapper.signature
  .ok
    { name := mapper.name
      visibility := mapper.visibility
      fields := fields
      signature := mapper.signature
      body := found
      conversions := conversions
      sourceMethod := offered }

end ObjectMapping.Rendering
