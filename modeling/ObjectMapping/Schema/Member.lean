/-
This file defines the members of a struct and the ways to create one: what a declaration says of a
member, what a member is once it has its place in a struct, and constructors with their parameters.
-/

import ObjectMapping.TypeRef

namespace ObjectMapping

inductive MemberKind
  /-- A plain field. -/
  | field
  /-- A value behind accessor functions. -/
  | property
  deriving Repr, DecidableEq

def MemberKind.text : MemberKind → String
  | .field => "field"
  | .property => "property"

/-- What a declaration says of a member. -/
structure MemberSpec where
  name : String
  type : TypeRef
  kind : MemberKind
  /-- Whether the value can be read from outside the struct. -/
  readable : Bool
  /-- Whether the value can be written once the struct exists. -/
  settable : Bool
  /-- Whether the member has to be populated. -/
  required : Bool
  /-- Whether the member is a marker without data. -/
  system : Bool
  deriving Repr, DecidableEq

namespace MemberSpec

/-- A member that is readable and settable. -/
def accessible (name : String) (type : TypeRef) (kind : MemberKind) : MemberSpec :=
  ⟨name, type, kind, true, true, false, false⟩

end MemberSpec

/-- A member at its place in a struct: its rank counts all members, those of the base first. -/
structure Member extends MemberSpec where
  owner : TypeId
  rank : Nat
  /-- Whether the member comes from the base of the struct. -/
  inherited : Bool
  deriving Repr, DecidableEq

structure Parameter where
  name : String
  type : TypeRef
  deriving Repr, DecidableEq

/-- A public way to create a struct. -/
inductive Constructor
  /-- The struct literal, which names every field. -/
  | literal
  /-- An associated function. -/
  | function (name : String) (parameters : List Parameter)
  deriving Repr, DecidableEq

namespace Constructor

def isLiteral : Constructor → Bool
  | .literal => true
  | .function _ _ => false

/-- The name of the function; empty for the struct literal. -/
def name : Constructor → String
  | .literal => ""
  | .function name _ => name

def parameters : Constructor → List Parameter
  | .literal => []
  | .function _ parameters => parameters

def isParameterless (constructor : Constructor) : Bool := constructor.parameters.isEmpty

end Constructor

end ObjectMapping
