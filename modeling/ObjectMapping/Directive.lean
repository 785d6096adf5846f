/-
This file defines the directives of a mapper's configuration and the value expressions that users
give in them.
-/

import ObjectMapping.Location
import ObjectMapping.Text.Words
import ObjectMapping.TypeRef

namespace ObjectMapping

inductive DirectiveName
  | mapMember
  | ignoreMember
  | mapCollection
  | useConstructor
  | useEmptyConstructor
  | includeMappers
  | mapEnum
  deriving Repr, DecidableEq

namespace DirectiveName

def all : List DirectiveName :=
  [.mapMember, .ignoreMember, .mapCollection, .useConstructor, .useEmptyConstructor,
    .includeMappers, .mapEnum]

/-- The name as users write it. -/
def text : DirectiveName → String
  | .mapMember => "map_member"
  | .ignoreMember => "ignore_member"
  | .mapCollection => "map_collection"
  | .useConstructor => "use_constructor"
  | .useEmptyConstructor => "use_empty_constructor"
  | .includeMappers => "include_mappers"
  | .mapEnum => "map_enum"

def ofText? (text : String) : Option DirectiveName := all.find? (·.text == text)

end DirectiveName

inductive ClosureBody
  /-- A single expression, as text. -/
  | expression (text : String)
  /-- Several statements, which cannot be put in place of a value. -/
  | block
  deriving Repr, DecidableEq

structure Closure where
  params : List String
  body : ClosureBody
  location : Location
  deriving Repr, DecidableEq

/-- A value expression that a user gives. -/
inductive Transform
  | closure (value : Closure)
  /-- The path of a function of one argument. -/
  | path (function : String) (location : Location)
  deriving Repr, DecidableEq

namespace Closure

/-- The pairs of a parameter and the method parameter at its place. With `keepFirst` the first
parameter names an element and keeps its name. -/
def renames (closure : Closure) (methodParams : List String) (keepFirst : Bool) :
    List Text.WordRename :=
  let pairs := (closure.params.zip methodParams).drop (if keepFirst then 1 else 0)
  (pairs.filter fun (param, target) => param != "_" && param != target).map
    fun (param, target) => ⟨param.toList, target.toList⟩

/-- The body with the parameters renamed to those of the mapping method, unless it is a block. -/
def inline? (closure : Closure) (methodParams : List String) (keepFirst : Bool) : Option String :=
  match closure.body with
  | .expression text => some (Text.renameWords (closure.renames methodParams keepFirst) text)
  | .block => none

/-- The name that the first parameter binds. -/
def firstParam? (closure : Closure) : Option String := closure.params.head?.filter (· != "_")

end Closure

namespace Transform

def location : Transform → Location
  | .closure value => value.location
  | .path _ location => location

def isBlock : Transform → Bool
  | .closure value => value.body == .block
  | .path _ _ => false

/-- The value as an expression over the parameters of the mapping method; a path is applied to
`argument`. -/
def inline? (transform : Transform) (methodParams : List String) (keepFirst : Bool)
    (argument : String) : Option String :=
  match transform with
  | .closure value => value.inline? methodParams keepFirst
  | .path function _ => some s!"{function}({argument})"

end Transform

/-- `map_member(|d| d.member, source)` -/
structure MapMember where
  member : String
  source : Transform
  location : Location
  deriving Repr, DecidableEq

/-- `ignore_member(|d| d.member)` -/
structure IgnoreMember where
  member : String
  location : Location
  deriving Repr, DecidableEq

/-- `map_collection(|d| d.member, source, item)`; without a source the member of the same name is
taken. -/
structure MapCollection where
  member : String
  source : Option Transform
  item : Transform
  location : Location
  deriving Repr, DecidableEq

inductive ConstructorChoice
  /-- `use_empty_constructor()` -/
  | empty (location : Location)
  /-- `use_constructor(arguments)` -/
  | arguments (arguments : List Transform) (location : Location)
  deriving Repr, DecidableEq

/-- `map_enum::<Source, Destination>()` -/
structure MapEnum where
  source : TypeId
  destination : TypeId
  location : Location
  deriving Repr, DecidableEq

/-- The directives of one mapper, those of each sort in the order of their statements. -/
structure Directives where
  mapMembers : List MapMember
  ignores : List IgnoreMember
  collections : List MapCollection
  constructor : Option ConstructorChoice
  enums : List MapEnum
  deriving Repr, DecidableEq

namespace Directives

def none : Directives := ⟨[], [], [], .none, []⟩

def isEmpty (directives : Directives) : Bool :=
  directives.mapMembers.isEmpty && directives.ignores.isEmpty && directives.collections.isEmpty &&
    directives.constructor.isNone && directives.enums.isEmpty

def mapMember? (directives : Directives) (member : String) : Option MapMember :=
  directives.mapMembers.find? (·.member == member)

def ignore? (directives : Directives) (member : String) : Option IgnoreMember :=
  directives.ignores.find? (·.member == member)

def collection? (directives : Directives) (member : String) : Option MapCollection :=
  directives.collections.find? (·.member == member)

/-- The members that directives name, each with the place of its directive. -/
def targets (directives : Directives) : List (String × Location) :=
  directives.mapMembers.map (fun directive => (directive.member, directive.location)) ++
    directives.ignores.map (fun directive => (directive.member, directive.location)) ++
    directives.collections.map (fun directive => (directive.member, directive.location))

end Directives

end ObjectMapping
