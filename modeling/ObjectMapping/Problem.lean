/-
This file defines problems: what keeps a source file from being mapped, each with its place. All problems
of a stage are reported together.
-/

import ObjectMapping.Diagnostic
import ObjectMapping.Fault.Basic

namespace ObjectMapping

/-- What is wrong with the options on a struct field. -/
inductive OptionProblem
  | withoutArguments
  | withValue
  /-- The name of an option is missing, at the end of the options or in front of something else. -/
  | missingName (atEnd : Bool)
  | literalName
  /-- A further part of a path is missing. -/
  | missingPart (atEnd : Bool)
  | missingComma
  | repeatedRequired
  | unknownOption
  deriving Repr, DecidableEq

def OptionProblem.message : OptionProblem → String
  | .withoutArguments => "expected attribute arguments in parentheses: #[mapgen(...)]"
  | .withValue => "expected parentheses: #[mapgen(...)]"
  | .missingName true => "unexpected end of input, expected nested attribute"
  | .missingName false => "unexpected token in nested attribute, expected ident"
  | .literalName => "unexpected literal in nested attribute, expected ident"
  | .missingPart true => "unexpected end of input, expected ident"
  | .missingPart false => "expected ident"
  | .missingComma => "expected `,`"
  | .repeatedRequired => "duplicate `required` option"
  | .unknownOption => "unexpected mapgen option; expected `required`"

/-- What is wrong with the declaration of a mapper. -/
inductive MapperProblem
  | generic
  | foreignMember
  | bodyOnMethod
  | receiver
  | noSource
  | noDestination
  | patternParameter
  | noMethod (mapper : String)
  deriving Repr, DecidableEq

def MapperProblem.message : MapperProblem → String
  | .generic => "mapper generics are not supported"
  | .foreignMember => "mappers may only declare a mapping method and `fn new()`"
  | .bodyOnMethod => "mapping methods are generated and cannot have a body"
  | .receiver => "mapping methods take the source object as their first parameter, not `self`"
  | .noSource => "mapping methods must take the source object as their first parameter"
  | .noDestination => "mapping methods must return the destination type"
  | .patternParameter => "mapping method parameters must be plain identifiers"
  | .noMethod mapper => s!"mapper `{mapper}` must declare a mapping method"

/-- What is wrong with a directive. -/
inductive DirectiveProblem
  | typeArguments (directive : DirectiveName)
  /-- The directive has not the arguments that it expects. -/
  | arguments (directive : DirectiveName)
  | repeatedConstructor
  | noMapperName
  | noEnumTypes
  | enumTypeCount
  | structForEnum
  | unknownEnum
  | noSelector
  | noTransform
  | patternParameter
  deriving Repr, DecidableEq

namespace DirectiveProblem

/-- The arguments of a directive, as a message names them. -/
def expectedArguments : DirectiveName → String
  | .mapMember => "a member selector and a source"
  | .ignoreMember => "a member selector"
  | .mapCollection => "a member selector, an optional source and an item transform"
  | .useConstructor => "arguments"
  | .useEmptyConstructor => "no arguments"
  | .includeMappers => "a list of mappers"
  | .mapEnum => "no arguments"

def message : DirectiveProblem → String
  | .typeArguments directive => s!"`{directive.text}` takes no type arguments"
  | .arguments directive => s!"`{directive.text}` expects {expectedArguments directive}"
  | .repeatedConstructor => "the constructor was already selected by an earlier directive"
  | .noMapperName => "expected the name of a mapper declared in the same input"
  | .noEnumTypes => "expected `map_enum::<Source, Destination>()`"
  | .enumTypeCount => "expected two enum types: `map_enum::<Source, Destination>()`"
  | .structForEnum => "expected a unit-only enum"
  | .unknownEnum => "unknown enum; it must be declared in the same input"
  | .noSelector => "expected a member selector such as `|d| d.member`"
  | .noTransform => "expected a closure such as `|o| o.name` or a function path"
  | .patternParameter => "closure parameters must be plain identifiers"

end DirectiveProblem

/-- What is wrong with the inclusions of mappers. -/
inductive InclusionProblem
  | repeatedMapper (mapper : String)
  | repeatedInclusion (mapper : String)
  | unknownMapper (mapper : String)
  /-- The path leads from the mapper over inclusions back to it. -/
  | cycle (mapper : String) (path : List String)
  deriving Repr, DecidableEq

def InclusionProblem.message : InclusionProblem → String
  | .repeatedMapper mapper => s!"mapper `{mapper}` is declared more than once"
  | .repeatedInclusion mapper => s!"mapper `{mapper}` is included more than once"
  | .unknownMapper mapper =>
      s!"unknown mapper `{mapper}`; included mappers must be declared in the same input"
  | .cycle mapper path => s!"mapper `{mapper}` includes itself: " ++ " -> ".intercalate path

/-- What is wrong with code that is to be generated. -/
inductive RenderingProblem
  | noConstructor (mapper : String)
  /-- An expression of the user cannot be read again. -/
  | unreadable (text reason : String)
  deriving Repr, DecidableEq

def RenderingProblem.message : RenderingProblem → String
  | .noConstructor mapper => s!"no constructor was selected for mapper `{mapper}`"
  | .unreadable text reason => s!"failed to parse mapping expression `{text}`: {reason}"

inductive ProblemCause
  | option (problem : OptionProblem)
  | mapper (problem : MapperProblem)
  | directive (problem : DirectiveProblem)
  | inclusion (problem : InclusionProblem)
  | rendering (problem : RenderingProblem)
  /-- A malformed schema or request. -/
  | fault (chain : Fault)
  /-- A diagnostic that keeps code from being generated. -/
  | diagnostic (finding : Diagnostic)
  deriving Repr, DecidableEq

structure Problem where
  location : Location
  cause : ProblemCause
  deriving Repr, DecidableEq

def ProblemCause.message : ProblemCause → String
  | .option problem => problem.message
  | .mapper problem => problem.message
  | .directive problem => problem.message
  | .inclusion problem => problem.message
  | .rendering problem => problem.message
  | .fault chain => chain.message
  | .diagnostic finding => s!"{finding.id.code}: {finding.message}"

def Problem.message (problem : Problem) : String := problem.cause.message

/-- A value with the problems met on the way to it; it counts only if there are none. -/
structure Checked (α : Type) where
  value : α
  problems : List Problem

namespace Checked

def toExcept {α : Type} (checked : Checked α) : Except (List Problem) α :=
  if checked.problems.isEmpty then .ok checked.value else .error checked.problems

/-- The values of a list of results, with the problems of those that failed. -/
def gather {α : Type} : List (Except (List Problem) α) → Checked (List α)
  | [] => ⟨[], []⟩
  | .ok value :: rest => ⟨value :: (gather rest).value, (gather rest).problems⟩
  | .error problems :: rest => ⟨(gather rest).value, problems ++ (gather rest).problems⟩

end Checked

end ObjectMapping
