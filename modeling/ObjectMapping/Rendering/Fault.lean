/-
This file says what can keep code from being generated.
-/

import ObjectMapping.Problem
import ObjectMapping.Source.Scan

namespace ObjectMapping

inductive GenerationFault
  /-- What is wrong with the source file. -/
  | problems (problems : List Problem)
  /-- A name that code is generated for is no identifier. -/
  | invalidName (name : String)
  deriving Repr, DecidableEq

namespace Rendering

open Text

def isWord : List Char → Bool
  | [] => false
  | first :: rest => isIdentifierStart first && rest.all isIdentifierContinue

/-- Whether a text can be an identifier, in its plain or in its raw form. -/
def isIdentifier : List Char → Bool
  | 'r' :: '#' :: raw => isWord raw && !Source.neverRaw.contains (String.ofList raw)
  | plain => isWord plain

/-- The name without the sign of raw identifiers. -/
def withoutRaw : List Char → List Char
  | 'r' :: '#' :: rest => rest
  | name => name

/-- The name if it can be an identifier. -/
def identifier (name : String) : Except GenerationFault String :=
  if isIdentifier name.toList then .ok name else .error (.invalidName name)

def refuse {α : Type} (location : Location) (cause : ProblemCause) : Except GenerationFault α :=
  .error (.problems [⟨location, cause⟩])

end Rendering

end ObjectMapping
