/-
This file collects what the `impl` blocks of a struct give access to: properties behind getters and
setters, constructors, and the base struct that the struct dereferences to.
-/

import ObjectMapping.Host.Type
import ObjectMapping.Schema.Member

namespace ObjectMapping.Host

open Source

/-- A value behind accessor functions; its type is that of the first of them. -/
structure Property where
  name : String
  type : TypeRef
  readable : Bool
  settable : Bool
  /-- Whether the getter lends the value. -/
  lent : Bool
  deriving Repr, DecidableEq

/-- What an accessor function adds to a property. -/
inductive Access
  | get (lent : Bool)
  | set
  deriving Repr, DecidableEq

structure Accessors where
  /-- The properties in the order of their first accessors. -/
  properties : List Property
  constructors : List Constructor
  base : Option TypeId
  deriving Repr, DecidableEq

/-- The name that a pattern gives a parameter. -/
def parameterName : Pattern → String
  | .name _ binder => binder
  | .typed _ inner => parameterName inner
  | .reference _ inner => parameterName inner
  | _ => "_"

/-- A public function of a struct by its form. -/
inductive AccessorRole
  | constructor (constructor : Constructor)
  | property (name : String) (type : TypeRef) (access : Access)
  deriving Repr, DecidableEq

/-- The typed arguments of a function. -/
def typedInputs (signature : Signature) : List (Pattern × WrittenType) :=
  signature.inputs.filterMap fun
    | .typed _ pattern type => some (pattern, type)
    | .receiver _ _ _ => none

/-- Whether a result type is the struct itself. -/
def isOwnType (owner : String) (type : WrittenType) : Bool :=
  type.ident? == some "Self" || type.ident? == some owner

/-- The part of the name of a setter that names the member. -/
def setMember? (name : String) : Option String :=
  let start := "set_".toList
  if start.isPrefixOf name.toList then some (String.ofList (name.toList.drop start.length)) else none

/-- The role of a public function without parameters of its own: a constructor has no receiver, a getter
reads from a shared reference, and a setter takes one value and gives none back. -/
def accessorRole? (names : TypeNames) (owner : String) (signature : Signature) :
    Option AccessorRole :=
  match signature.receiver?, signature.result, typedInputs signature with
  | none, some result, inputs =>
      if isOwnType owner result then
        some (.constructor (.function signature.name (inputs.map fun (pattern, type) =>
          ⟨parameterName pattern, TypeRef.ofWritten names type⟩)))
      else
        none
  | some (.receiver _ true false), some result, [] =>
      let (type, lent) := TypeRef.ofGetter names result
      some (.property signature.name type (.get lent))
  | some (.receiver _ true true), none, [(_, type)] =>
      (setMember? signature.name).map fun member =>
        .property member (TypeRef.ofWritten names type) .set
  | _, _, _ => none

namespace Property

def grant (property : Property) : Access → Property
  | .get lent => { property with readable := true, lent := lent }
  | .set => { property with settable := true }

end Property

/-- Adds an accessor to the property of that name, or a new property for it. -/
def addAccess (name : String) (type : TypeRef) (access : Access) : List Property → List Property
  | [] => [(Property.mk name type false false false).grant access]
  | property :: rest =>
      if property.name == name then property.grant access :: rest
      else property :: addAccess name type access rest

namespace Accessors

def none : Accessors := ⟨[], [], .none⟩

def add (accessors : Accessors) : AccessorRole → Accessors
  | .constructor constructor =>
      { accessors with constructors := accessors.constructors ++ [constructor] }
  | .property name type access =>
      { accessors with properties := addAccess name type access accessors.properties }

def addMember (names : TypeNames) (owner : String) (accessors : Accessors) :
    ImplMember → Accessors
  | .function true signature =>
      if signature.isGeneric then accessors
      else
        match accessorRole? names owner signature with
        | some role => accessors.add role
        | .none => accessors
  | _ => accessors

/-- The base that the target of a dereference names, if it is a declared type. -/
def targetBase? (names : TypeNames) (members : List ImplMember) : Option TypeId :=
  let target := members.findSome? fun
    | .type "Target" type => some type
    | _ => .none
  match target.map (TypeRef.ofWritten names) with
  | some (.named id) => some id
  | _ => .none

/-- Adds an `impl` block of the struct; of the traits only the one for dereferencing counts. -/
def addImpl (names : TypeNames) (owner : String) (accessors : Accessors) (item : ImplItem) :
    Accessors :=
  match item.trait with
  | .none => item.members.foldl (addMember names owner) accessors
  | some "Deref" => { accessors with base := targetBase? names item.members }
  | some _ => accessors

end Accessors

/-- The name of the struct that an `impl` block belongs to; blocks with parameters belong to none. -/
def implOwner? (item : ImplItem) : Option String :=
  if item.isGeneric then none else item.owner.ident?

/-- What all `impl` blocks of a struct give access to. -/
def accessorsOf (names : TypeNames) (items : List Item) (owner : String) : Accessors :=
  items.foldl (fun accessors item =>
    match item with
    | .impl block =>
        if implOwner? block == some owner then accessors.addImpl names owner block else accessors
    | _ => accessors) .none

end ObjectMapping.Host
