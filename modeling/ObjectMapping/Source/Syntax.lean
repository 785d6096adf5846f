/-
This file defines what is kept of the phrases of a source text: the tokens of each phrase, as they are
written out again, and of its form as much as mapping declarations depend on.
-/

import ObjectMapping.Source.Token

namespace ObjectMapping.Source

/-- What stands behind a segment of a path. -/
inductive ArgumentForm
  | none
  /-- Arguments in angle brackets. -/
  | angled
  /-- Arguments in parentheses, as of a function trait. -/
  | parenthesized
  deriving Repr, DecidableEq

structure PathHead where
  /-- Whether the path starts with a type in angle brackets. -/
  isQualified : Bool
  /-- Whether the path starts with two colons. -/
  isRooted : Bool
  segments : Nat
  /-- The name of the last segment. -/
  last : String
  /-- What stands behind the last segment. -/
  arguments : ArgumentForm
  deriving Repr, DecidableEq

namespace PathHead

/-- The name of a path that is nothing but a name. -/
def ident? (head : PathHead) : Option String :=
  if !head.isQualified && !head.isRooted && head.segments == 1 && head.arguments == .none then
    some head.last
  else
    none

end PathHead

/-- A type as it is written. -/
inductive WrittenType
  /-- A type in parentheses. -/
  | grouped (tokens : List Token) (inner : WrittenType)
  | reference (tokens : List Token) (isMutable : Bool) (target : WrittenType)
  | slice (tokens : List Token) (element : WrittenType)
  | path (tokens : List Token) (head : PathHead)
  /-- A path whose last segment has one argument, a type. -/
  | application (tokens : List Token) (head : PathHead) (argument : WrittenType)
  | other (tokens : List Token)
  deriving Repr

namespace WrittenType

def tokens : WrittenType → List Token
  | .grouped tokens _ => tokens
  | .reference tokens _ _ => tokens
  | .slice tokens _ => tokens
  | .path tokens _ => tokens
  | .application tokens _ _ => tokens
  | .other tokens => tokens

def withTokens (tokens : List Token) : WrittenType → WrittenType
  | .grouped _ inner => .grouped tokens inner
  | .reference _ isMutable target => .reference tokens isMutable target
  | .slice _ element => .slice tokens element
  | .path _ head => .path tokens head
  | .application _ head argument => .application tokens head argument
  | .other _ => .other tokens

def head? : WrittenType → Option PathHead
  | .path _ head => some head
  | .application _ head _ => some head
  | _ => none

/-- The name of a type that is nothing but a name. -/
def ident? (type : WrittenType) : Option String := type.head?.bind (·.ident?)

end WrittenType

inductive Pattern
  | name (tokens : List Token) (binder : String)
  /-- A pattern with a type behind a colon. -/
  | typed (tokens : List Token) (inner : Pattern)
  | reference (tokens : List Token) (inner : Pattern)
  | wild (tokens : List Token)
  /-- Two dots, which stand for what is left. -/
  | rest (tokens : List Token)
  /-- A range that lacks one of its ends. -/
  | openRange (tokens : List Token)
  | other (tokens : List Token)
  deriving Repr

namespace Pattern

def tokens : Pattern → List Token
  | .name tokens _ => tokens
  | .typed tokens _ => tokens
  | .reference tokens _ => tokens
  | .wild tokens => tokens
  | .rest tokens => tokens
  | .openRange tokens => tokens
  | .other tokens => tokens

def withTokens (tokens : List Token) : Pattern → Pattern
  | .name _ binder => .name tokens binder
  | .typed _ inner => .typed tokens inner
  | .reference _ inner => .reference tokens inner
  | .wild _ => .wild tokens
  | .rest _ => .rest tokens
  | .openRange _ => .openRange tokens
  | .other _ => .other tokens

end Pattern

inductive Expression
  | closure (tokens : List Token) (params : List Pattern) (body : Expression)
  /-- A path with the types among its last arguments and the tokens of those arguments. -/
  | path (tokens : List Token) (head : PathHead) (typeArguments : List WrittenType)
      (argumentTokens : List Token)
  /-- A field by its name; one that is counted has none. -/
  | field (tokens : List Token) (base : Expression) (member : Option String)
  | call (tokens : List Token) (function : Expression) (arguments : List Expression)
  | array (tokens : List Token) (elements : List Expression)
  /-- A block without a label that holds one expression and nothing else. -/
  | wrapped (tokens : List Token) (inner : Expression)
  /-- Any other block. -/
  | block (tokens : List Token)
  /-- What can stand as a statement without a semicolon, such as a loop. -/
  | statementLike (tokens : List Token)
  | macroCall (tokens : List Token) (isBraced : Bool)
  | range (tokens : List Token)
  | comparison (tokens : List Token)
  | other (tokens : List Token)
  deriving Repr

namespace Expression

def tokens : Expression → List Token
  | .closure tokens _ _ => tokens
  | .path tokens _ _ _ => tokens
  | .field tokens _ _ => tokens
  | .call tokens _ _ => tokens
  | .array tokens _ => tokens
  | .wrapped tokens _ => tokens
  | .block tokens => tokens
  | .statementLike tokens => tokens
  | .macroCall tokens _ => tokens
  | .range tokens => tokens
  | .comparison tokens => tokens
  | .other tokens => tokens

def withTokens (tokens : List Token) : Expression → Expression
  | .closure _ params body => .closure tokens params body
  | .path _ head typeArguments argumentTokens => .path tokens head typeArguments argumentTokens
  | .field _ base member => .field tokens base member
  | .call _ function arguments => .call tokens function arguments
  | .array _ elements => .array tokens elements
  | .wrapped _ inner => .wrapped tokens inner
  | .block _ => .block tokens
  | .statementLike _ => .statementLike tokens
  | .macroCall _ isBraced => .macroCall tokens isBraced
  | .range _ => .range tokens
  | .comparison _ => .comparison tokens
  | .other _ => .other tokens

def location (expression : Expression) : Location := tokensLocation expression.tokens

def isRange : Expression → Bool
  | .range _ => true
  | _ => false

def isComparison : Expression → Bool
  | .comparison _ => true
  | _ => false

/-- Whether the expression ends a statement or match arm by itself. -/
def isComplete : Expression → Bool
  | .wrapped _ _ => true
  | .block _ => true
  | .statementLike _ => true
  | _ => false

end Expression

inductive Statement
  | expression (tokens : List Token) (value : Expression) (hasSemicolon : Bool)
  | other (tokens : List Token)
  deriving Repr

namespace Statement

def tokens : Statement → List Token
  | .expression tokens _ _ => tokens
  | .other tokens => tokens

def location (statement : Statement) : Location := tokensLocation statement.tokens

end Statement

inductive AttributeForm
  /-- Nothing but a path. -/
  | bare
  /-- A value behind an equals sign, which stands at the location. -/
  | value (equals : Location)
  /-- Arguments in brackets, which close at the location. -/
  | list (arguments : List Token) (closing : Location)
  deriving Repr

structure Attribute where
  head : PathHead
  /-- Where the path starts. -/
  location : Location
  form : AttributeForm
  deriving Repr

namespace Attribute

def isNamed (written : Attribute) (name : String) : Bool := written.head.ident? == some name

end Attribute

structure Field where
  name : String
  /-- Whether the field is public without restriction. -/
  isPublic : Bool
  type : WrittenType
  attributes : List Attribute
  deriving Repr

inductive FunctionInput
  | receiver (tokens : List Token) (isReference isMutable : Bool)
  | typed (tokens : List Token) (pattern : Pattern) (type : WrittenType)
  deriving Repr

namespace FunctionInput

def tokens : FunctionInput → List Token
  | .receiver tokens _ _ => tokens
  | .typed tokens _ _ => tokens

end FunctionInput

/-- The head of a function. -/
structure Signature where
  /-- All of it. -/
  tokens : List Token
  /-- What stands in front of `fn`. -/
  qualifiers : List Token
  name : String
  nameLocation : Location
  generics : List Token
  isGeneric : Bool
  inputs : List FunctionInput
  /-- What stands between the parentheses. -/
  inputTokens : List Token
  result : Option WrittenType
  /-- The arrow and the result type. -/
  resultTokens : List Token
  bounds : List Token
  deriving Repr

namespace Signature

def location (signature : Signature) : Location := tokensLocation signature.tokens

/-- The receiver, which can only come first. -/
def receiver? (signature : Signature) : Option FunctionInput :=
  match signature.inputs with
  | .receiver tokens isReference isMutable :: _ => some (.receiver tokens isReference isMutable)
  | _ => none

end Signature

inductive TraitMember
  | function (tokens : List Token) (signature : Signature) (body : Option (List Statement))
  | other (tokens : List Token)
  deriving Repr

structure TraitItem where
  attributes : List Attribute
  visibility : List Token
  name : String
  location : Location
  generics : List Token
  isGeneric : Bool
  members : List TraitMember
  deriving Repr

structure StructItem where
  name : String
  isGeneric : Bool
  /-- The fields, if they have names. -/
  fields : Option (List Field)
  deriving Repr

structure Variant where
  name : String
  /-- Whether the variant holds no data. -/
  isUnit : Bool
  deriving Repr

structure EnumItem where
  name : String
  isGeneric : Bool
  variants : List Variant
  deriving Repr

inductive ImplMember
  | function (isPublic : Bool) (signature : Signature)
  | type (name : String) (type : WrittenType)
  | other
  deriving Repr

structure ImplItem where
  isGeneric : Bool
  owner : WrittenType
  /-- The last name of the path of the trait that is implemented. -/
  trait : Option String
  members : List ImplMember
  deriving Repr

inductive Item
  | struct (item : StructItem)
  | enum (item : EnumItem)
  | impl (item : ImplItem)
  | trait (item : TraitItem)
  | other
  deriving Repr

/-- A top-level item with its tokens, the options on struct fields taken out. -/
structure FileItem where
  item : Item
  carried : List Token
  deriving Repr

/-- The items of a source file. -/
structure SourceFile where
  items : List FileItem
  deriving Repr

end ObjectMapping.Source
