/-
This file defines schemas: the types that a set of mapping requests can see, with look-ups by place
and by name, and the text of types and constructors in messages.
-/

import ObjectMapping.Fault.Basic
import ObjectMapping.Name
import ObjectMapping.Schema.Member

namespace ObjectMapping

structure StructType where
  /-- The struct that this one gives access to. -/
  base : Option TypeId
  /-- The members of the base first, each group in the order of declaration. -/
  members : List Member
  constructors : List Constructor
  deriving Repr, DecidableEq

inductive TypeKind
  | struct (type : StructType)
  | enum (variants : List String)
  deriving Repr, DecidableEq

structure TypeDescriptor where
  id : TypeId
  ident : String
  kind : TypeKind
  deriving Repr, DecidableEq

/-- The types of a set of mapping requests, each at the place that its id names. -/
structure Schema where
  types : List TypeDescriptor
  deriving Repr, DecidableEq

/-- Enters a name at a place unless it has one. -/
def enterPlace (places : List (String × Nat)) (entry : String × Nat) : List (String × Nat) :=
  if (places.lookup entry.1).isSome then places else places ++ [entry]

/-- The first place of each name. -/
def firstPlaces (names : List String) : List (String × Nat) := names.zipIdx.foldl enterPlace []

namespace StructType

/-- The places of the members by their names. -/
def places (type : StructType) : List (String × Nat) := firstPlaces (type.members.map (·.name))

/-- The places of the members by their names in lower case. -/
def placesIgnoringCase (type : StructType) : List (String × Nat) :=
  firstPlaces (type.members.map fun member => Text.lower member.name)

def member? (type : StructType) (name : String) : Option Member :=
  (type.places.lookup name).bind fun place => type.members[place]?

/-- The first member whose name agrees with the given one when case is ignored. -/
def memberIgnoringCase? (type : StructType) (name : String) : Option Member :=
  (type.placesIgnoringCase.lookup (Text.lower name)).bind fun place => type.members[place]?

end StructType

namespace TypeDescriptor

def name (descriptor : TypeDescriptor) : Name := Name.ofText descriptor.ident

def struct? (descriptor : TypeDescriptor) : Option StructType :=
  match descriptor.kind with
  | .struct type => some type
  | .enum _ => none

def variants? (descriptor : TypeDescriptor) : Option (List String) :=
  match descriptor.kind with
  | .struct _ => none
  | .enum variants => some variants

end TypeDescriptor

namespace Schema

def empty : Schema := ⟨[]⟩

def get? (schema : Schema) (id : TypeId) : Option TypeDescriptor := schema.types[id.index]?

def typeNamed? (schema : Schema) (ident : String) : Option TypeDescriptor :=
  schema.types.find? (·.ident == ident)

/-- The identifier of a type, or a text made of its id where the schema does not hold it. -/
def identOf (schema : Schema) (id : TypeId) : String :=
  match schema.get? id with
  | some descriptor => descriptor.ident
  | none => id.text

def nameOf (schema : Schema) (id : TypeId) : Name := Name.ofText (schema.identOf id)

/-- A type that has to be a struct. -/
def expectStruct (schema : Schema) (id : TypeId) : Except Fault (TypeDescriptor × StructType) :=
  match schema.get? id with
  | none => .error (.unknownType id.text)
  | some descriptor =>
      match descriptor.kind with
      | .struct type => .ok (descriptor, type)
      | .enum _ =>
          .error (.ofCause (.note s!"expected `{descriptor.ident}` to be a struct, found an enum"))

def variants? (schema : Schema) (id : TypeId) : Option (List String) :=
  (schema.get? id).bind (·.variants?)

/-- The enum behind a type, looking through one option, with its variants. -/
def enum? (schema : Schema) (type : TypeRef) : Option (TypeId × List String) :=
  match type.nonNullable with
  | .named id => (schema.variants? id).map fun variants => (id, variants)
  | _ => none

/-- The text of a type as it is written in source. -/
def display (schema : Schema) : TypeRef → String
  | .scalar value => value.ident
  | .named id => schema.identOf id
  | .foreign path => path
  | .nullable inner => s!"Option<{schema.display inner}>"
  | .collection kind element => kind.around (schema.display element)

/-- The text of a constructor, as in `Order::new(id: i64)`. -/
def signature (schema : Schema) (owner : String) : Constructor → String
  | .literal => owner ++ " \x7b .. \x7d"
  | .function name parameters =>
      let texts := parameters.map fun parameter =>
        s!"{parameter.name}: {schema.display parameter.type}"
      owner ++ "::" ++ name ++ "(" ++ ", ".intercalate texts ++ ")"

/-- The list of constructors that a message shows, one to a line. -/
def signatures (schema : Schema) (owner : String) (constructors : List Constructor) : String :=
  if constructors.isEmpty then "  (none)"
  else
    "\n".intercalate (constructors.map fun constructor => s!"  - {schema.signature owner constructor}")

end Schema

end ObjectMapping
