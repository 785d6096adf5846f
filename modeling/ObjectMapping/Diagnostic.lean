/-
This file defines diagnostics: what can be wrong with a mapping, the stable code of each finding and
the message that users read.
-/

import ObjectMapping.Directive
import ObjectMapping.Schema.Member

namespace ObjectMapping

inductive DiagnosticId
  | missingPropertyMapping
  | lambdaBlockNotSupported
  | multipleMappingMethods
  | typeMismatchInDirectMapping
  | nullableToNonNullableMismatch
  | requiredMemberCannotBeIgnored
  | parameterizedConstructorRequired
  | ambiguousConstructorSelection
  | useEmptyConstructorNotPossible
  | mapperConstructorWithParameters
  | invalidConstructorStatement
  | incompatibleEnumMapping
  | noAccessibleConstructor
  | constructorArgumentCountMismatch
  deriving Repr, DecidableEq

namespace DiagnosticId

/-- The name that a report gives the diagnostic. -/
def tag : DiagnosticId → String
  | .missingPropertyMapping => "MissingPropertyMapping"
  | .lambdaBlockNotSupported => "LambdaBlockNotSupported"
  | .multipleMappingMethods => "MultipleMappingMethods"
  | .typeMismatchInDirectMapping => "TypeMismatchInDirectMapping"
  | .nullableToNonNullableMismatch => "NullableToNonNullableMismatch"
  | .requiredMemberCannotBeIgnored => "RequiredMemberCannotBeIgnored"
  | .parameterizedConstructorRequired => "ParameterizedConstructorRequired"
  | .ambiguousConstructorSelection => "AmbiguousConstructorSelection"
  | .useEmptyConstructorNotPossible => "UseEmptyConstructorNotPossible"
  | .mapperConstructorWithParameters => "MapperConstructorWithParameters"
  | .invalidConstructorStatement => "InvalidConstructorStatement"
  | .incompatibleEnumMapping => "IncompatibleEnumMapping"
  | .noAccessibleConstructor => "NoAccessibleConstructor"
  | .constructorArgumentCountMismatch => "ConstructorArgumentCountMismatch"

/-- The stable code that users quote. -/
def code : DiagnosticId → String
  | .missingPropertyMapping => "MAPPER001"
  | .lambdaBlockNotSupported => "MAPPER002"
  | .multipleMappingMethods => "MAPPER003"
  | .typeMismatchInDirectMapping => "MAPPER004"
  | .nullableToNonNullableMismatch => "MAPPER005"
  | .requiredMemberCannotBeIgnored => "MAPPER006"
  | .parameterizedConstructorRequired => "MAPPER007"
  | .ambiguousConstructorSelection => "MAPPER008"
  | .useEmptyConstructorNotPossible => "MAPPER009"
  | .mapperConstructorWithParameters => "MAPPER010"
  | .invalidConstructorStatement => "MAPPER011"
  | .incompatibleEnumMapping => "MAPPER012"
  | .noAccessibleConstructor => "MAPPER013"
  | .constructorArgumentCountMismatch => "MAPPER014"

def title : DiagnosticId → String
  | .missingPropertyMapping => "Missing member mapping"
  | .lambdaBlockNotSupported => "Closure blocks are not supported"
  | .multipleMappingMethods => "Multiple mapping methods not supported"
  | .typeMismatchInDirectMapping => "Type mismatch in direct mapping"
  | .nullableToNonNullableMismatch => "Option to non-Option mismatch in direct mapping"
  | .requiredMemberCannotBeIgnored => "Required member cannot be ignored"
  | .parameterizedConstructorRequired => "Parameterized constructor requires use_constructor()"
  | .ambiguousConstructorSelection => "Multiple constructors available"
  | .useEmptyConstructorNotPossible =>
      "use_empty_constructor() requires a parameterless constructor"
  | .mapperConstructorWithParameters => "Mapper constructor cannot have parameters"
  | .invalidConstructorStatement => "Invalid statement in mapper constructor"
  | .incompatibleEnumMapping => "Incompatible enum mapping"
  | .noAccessibleConstructor => "No accessible constructor"
  | .constructorArgumentCountMismatch => "No constructor matches the argument count"

end DiagnosticId

inductive Severity
  | error
  | warning
  deriving Repr, DecidableEq

def Severity.text : Severity → String
  | .error => "error"
  | .warning => "warning"

/-- The names that a finding about a member quotes. -/
structure MemberPair where
  destination : String
  member : String
  kind : MemberKind
  destinationType : String
  source : String
  sourceType : Option String
  deriving Repr, DecidableEq

namespace MemberPair

/-- The sentence that opens every message about two types that do not fit. -/
def mismatch (pair : MemberPair) : String :=
  s!"Direct mapping cannot be used because {pair.kind.text} \"{pair.destination}.{pair.member}\" " ++
    s!"is of type \"{pair.destinationType}\" and \"{pair.source}.{pair.member}\" is of type " ++
    "\"" ++ pair.sourceType.getD "?" ++ "\"."

end MemberPair

/-- What is wrong with a mapping. -/
inductive Finding
  | missingMember (pair : MemberPair)
  | typeMismatch (pair : MemberPair)
  | nullableMismatch (pair : MemberPair)
  | enumMemberMismatch (pair : MemberPair) (destinationEnum : String) (missing : List String)
  | enumPairMismatch (sourceEnum destinationEnum : String) (missing : List String)
  | requiredMemberIgnored (member : String)
  | closureBlock (directive : String)
  | parameterizedConstructorRequired (destination signatures : String)
  | ambiguousConstructor (destination signatures : String)
  | emptyConstructorNotPossible (destination signatures : String)
  | noAccessibleConstructor (destination : String)
  | constructorArgumentCount (destination : String) (count : Nat) (signatures : String)
  | mapperConstructorWithParameters (mapper : String)
  | invalidConstructorStatement (mapper : String)
  | multipleMappingMethods (mapper method : String)
  deriving Repr, DecidableEq

namespace Finding

def id : Finding → DiagnosticId
  | .missingMember _ => .missingPropertyMapping
  | .typeMismatch _ => .typeMismatchInDirectMapping
  | .nullableMismatch _ => .nullableToNonNullableMismatch
  | .enumMemberMismatch _ _ _ => .incompatibleEnumMapping
  | .enumPairMismatch _ _ _ => .incompatibleEnumMapping
  | .requiredMemberIgnored _ => .requiredMemberCannotBeIgnored
  | .closureBlock _ => .lambdaBlockNotSupported
  | .parameterizedConstructorRequired _ _ => .parameterizedConstructorRequired
  | .ambiguousConstructor _ _ => .ambiguousConstructorSelection
  | .emptyConstructorNotPossible _ _ => .useEmptyConstructorNotPossible
  | .noAccessibleConstructor _ => .noAccessibleConstructor
  | .constructorArgumentCount _ _ _ => .constructorArgumentCountMismatch
  | .mapperConstructorWithParameters _ => .mapperConstructorWithParameters
  | .invalidConstructorStatement _ => .invalidConstructorStatement
  | .multipleMappingMethods _ _ => .multipleMappingMethods

def message : Finding → String
  | .missingMember pair =>
      s!"\"{pair.destination}\" type has \"{pair.member}\" {pair.kind.text} of type " ++
        s!"\"{pair.destinationType}\" which does not exist in \"{pair.source}\" type. " ++
        "Please, add custom mapping using map_member() or " ++
        s!"ignore this {pair.kind.text} explicitly using ignore_member()."
  | .typeMismatch pair =>
      pair.mismatch ++
        " Use map_member() to create custom mapping or ignore_member() to skip it."
  | .nullableMismatch pair =>
      pair.mismatch ++ " A `None` value would have nowhere to go at runtime. " ++
        "Use map_member() to create custom mapping with explicit `None` handling " ++
        "or ignore_member() to skip it."
  | .enumMemberMismatch pair destinationEnum missing =>
      pair.mismatch ++
        s!" \"{destinationEnum}\" is missing variant(s): " ++ ", ".intercalate missing ++ ". " ++
        "Use map_member() to create custom mapping or ignore_member() to skip it."
  | .enumPairMismatch sourceEnum destinationEnum missing =>
      s!"Enum \"{sourceEnum}\" cannot be mapped to \"{destinationEnum}\" because " ++
        s!"\"{destinationEnum}\" is missing variant(s): " ++ ", ".intercalate missing ++ "."
  | .requiredMemberIgnored member =>
      s!"Member \"{member}\" can't be ignored because it is marked as required."
  | .closureBlock directive =>
      "Closure block bodies are not supported. " ++
        s!"Use a single expression or a function path in {directive}()."
  | .parameterizedConstructorRequired destination signatures =>
      s!"Cannot generate mapping to \"{destination}\". " ++
        "Type has constructor(s) with parameters but no parameterless constructor. " ++
        "Use use_constructor() to specify how to map constructor parameters." ++
        s!"\n\nAvailable constructors:\n{signatures}"
  | .ambiguousConstructor destination signatures =>
      s!"Cannot generate mapping to \"{destination}\". Type has multiple constructors. " ++
        "Use use_constructor() to specify which constructor parameters to use, " ++
        "or use_empty_constructor() to use the parameterless constructor." ++
        s!"\n\nAvailable constructors:\n{signatures}"
  | .emptyConstructorNotPossible destination signatures =>
      s!"Cannot use use_empty_constructor() for type \"{destination}\" " ++
        "because it has no parameterless constructor. " ++
        "Use use_constructor() instead to specify constructor parameters." ++
        s!"\n\nAvailable constructors:\n{signatures}"
  | .noAccessibleConstructor destination =>
      s!"Cannot generate mapping to \"{destination}\". " ++
        "Type has no public constructor and cannot be built with a struct literal. " ++
        "Add a public constructor or make every field public."
  | .constructorArgumentCount destination count signatures =>
      s!"Cannot generate mapping to \"{destination}\". " ++
        s!"use_constructor() was given {count} argument(s) " ++
        s!"but no constructor takes {count} parameter(s)." ++
        s!"\n\nAvailable constructors:\n{signatures}"
  | .mapperConstructorWithParameters mapper =>
      s!"Mapper \"{mapper}\" constructor cannot have parameters. " ++
        "Mapper constructors should be parameterless and only contain configuration calls."
  | .invalidConstructorStatement mapper =>
      s!"Mapper \"{mapper}\" constructor can only contain calls to mapping configuration methods. " ++
        "Variable declarations, branches, and other statements are not allowed."
  | .multipleMappingMethods mapper method =>
      s!"\"{mapper}\" can have only one mapping method. " ++
        s!"Create a new mapper and place \"{method}()\" there."

end Finding

/-- A finding at its place in the source. -/
structure Diagnostic where
  finding : Finding
  severity : Severity
  location : Location
  deriving Repr, DecidableEq

namespace Diagnostic

def error (location : Location) (finding : Finding) : Diagnostic := ⟨finding, .error, location⟩

def id (diagnostic : Diagnostic) : DiagnosticId := diagnostic.finding.id

def message (diagnostic : Diagnostic) : String := diagnostic.finding.message

def isError (diagnostic : Diagnostic) : Bool := diagnostic.severity == .error

/-- The line that users read. -/
def text (diagnostic : Diagnostic) : String :=
  s!"{diagnostic.severity.text}[{diagnostic.id.code}]: {diagnostic.message}"

end Diagnostic

end ObjectMapping
