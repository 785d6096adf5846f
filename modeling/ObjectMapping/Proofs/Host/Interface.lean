/-
This file states what the items of a source file let others do with a struct: read and write its public
fields, call its getters, setters and constructors, and reach the struct that it dereferences to.
-/

import Mathlib.Logic.Relation
import ObjectMapping.Host.Accessor
import ObjectMapping.Rendering.Body

namespace ObjectMapping

open Relation Source

namespace Source.WrittenType

/-- The name that a type without arguments is written as; parentheses around it do not count. -/
def named? : WrittenType → Option String
  | .grouped _ inner => inner.named?
  | .path _ head =>
      if head.isQualified || head.arguments != .none || head.segments != 1 then none else some head.last
  | _ => none

/-- The type behind the borrow, if it is one. -/
def behindBorrow : WrittenType → WrittenType
  | .reference _ _ target => target
  | type => type

end Source.WrittenType

namespace Source.Signature

/-- The function reads from a shared reference and takes nothing else. -/
def IsGetter (signature : Signature) : Prop :=
  ∃ tokens result, signature.receiver? = some (.receiver tokens true false) ∧
    Host.typedInputs signature = [] ∧ signature.result = some result

/-- The function gives a reference. -/
def GivesReference (signature : Signature) : Prop :=
  ∃ tokens isMutable target, signature.result = some (.reference tokens isMutable target)

/-- The function takes one value through a mutable reference and gives none back. -/
def IsSetter (signature : Signature) : Prop :=
  ∃ tokens input, signature.receiver? = some (.receiver tokens true true) ∧
    Host.typedInputs signature = [input] ∧ signature.result = none

/-- The function has no receiver and gives a value of the struct. -/
def IsConstructor (owner : String) (signature : Signature) : Prop :=
  ∃ result, signature.receiver? = none ∧ signature.result = some result ∧ Host.isOwnType owner result = true

end Source.Signature

namespace Host

variable (items : List Item) (owner : String)

/-- A struct of that name is declared with these fields. -/
def DeclaresStruct (fields : List Field) : Prop :=
  ∃ item, .struct item ∈ items ∧ item.isGeneric = false ∧ item.name = owner ∧ item.fields = some fields

/-- An enum without parameters and without data is declared with the given variants. -/
def DeclaresEnum (variants : List String) : Prop :=
  ∃ item, .enum item ∈ items ∧ item.isGeneric = false ∧ item.name = owner ∧
    (∀ variant ∈ item.variants, variant.isUnit = true) ∧ item.variants.map (·.name) = variants

def HasPublicField (name : String) : Prop :=
  ∃ fields, DeclaresStruct items owner fields ∧ ∃ field ∈ fields, field.name = name ∧ field.isPublic = true

/-- A public function without parameters of its own stands in an `impl` block of the struct. -/
def Offers (signature : Signature) : Prop :=
  ∃ block, .impl block ∈ items ∧ implOwner? block = some owner ∧ block.trait = none ∧
    .function true signature ∈ block.members ∧ signature.isGeneric = false

def HasGetter (name : String) : Prop :=
  ∃ signature, Offers items owner signature ∧ signature.name = name ∧ signature.IsGetter

/-- The getter gives a reference to what it reads. -/
def HasLendingGetter (name : String) : Prop :=
  ∃ signature, Offers items owner signature ∧ signature.name = name ∧ signature.IsGetter ∧ signature.GivesReference

def HasSetter (name : String) : Prop :=
  ∃ signature, Offers items owner signature ∧ signature.name = name ∧ signature.IsSetter

def HasConstructor (name : String) : Prop :=
  ∃ signature, Offers items owner signature ∧ signature.name = name ∧ signature.IsConstructor owner

/-- The struct dereferences to the one of the other name. -/
def Dereferences (target : String) : Prop :=
  ∃ block type, .impl block ∈ items ∧ implOwner? block = some owner ∧ block.trait = some "Deref" ∧
    .type "Target" type ∈ block.members ∧ type.named? = some target

/-- A member can be read from outside of the struct that declares it. -/
def CanRead (name : String) : MemberKind → Prop
  | .field => HasPublicField items owner name
  | .property => HasGetter items owner name

/-- A member can be written from outside of the struct that declares it. -/
def CanWrite (name : String) : MemberKind → Prop
  | .field => HasPublicField items owner name
  | .property => HasSetter items owner (Rendering.setterName name)

/-- A struct on the chain of those that the owner dereferences to, itself included, lets the member be read. -/
def LetsRead (name : String) (kind : MemberKind) : Prop :=
  ∃ holder, ReflTransGen (Dereferences items) owner holder ∧ CanRead items holder name kind

/-- A struct on the chain has a getter that lends the member. -/
def LendsMember (name : String) : Prop :=
  ∃ holder, ReflTransGen (Dereferences items) owner holder ∧ HasLendingGetter items holder name

/-- A struct on the chain lets the member be written. -/
def LetsWrite (name : String) (kind : MemberKind) : Prop :=
  ∃ holder, ReflTransGen (Dereferences items) owner holder ∧ CanWrite items holder name kind

section

variable {owner}

/-- A setter of a member is named `set_` and the member. -/
theorem setMember?_eq_some {name member : String} : setMember? name = some member ↔ name = "set_" ++ member := by
  unfold setMember?
  dsimp only
  constructor
  · intro sets
    split at sets
    · next starts =>
        cases sets
        obtain ⟨rest, same⟩ := List.isPrefixOf_iff_prefix.mp starts
        have text : (String.ofList rest).toList = rest := String.toList_ofList
        apply String.toList_inj.mp
        rw [← same, List.drop_left, String.toList_append, text]
    · cases sets
  · rintro rfl
    have starts : "set_".toList.isPrefixOf ("set_" ++ member).toList = true := by
      rw [String.toList_append]
      exact List.isPrefixOf_iff_prefix.mpr (List.prefix_append _ _)
    rw [if_pos starts, String.toList_append, List.drop_left, String.ofList_toList]

/-- The roles of public functions, each with the form that gives a function this role. -/
inductive RoleRule (names : TypeNames) (owner : String) (signature : Signature) : AccessorRole → Prop
  | constructs (result : WrittenType) (noReceiver : signature.receiver? = none)
      (isResult : signature.result = some result) (own : isOwnType owner result = true) :
      RoleRule names owner signature (.constructor (.function signature.name ((typedInputs signature).map
        fun (pattern, type) => ⟨parameterName pattern, TypeRef.ofWritten names type⟩)))
  | gets (tokens : List Token) (result : WrittenType)
      (receiver : signature.receiver? = some (.receiver tokens true false))
      (isResult : signature.result = some result) (noInput : typedInputs signature = []) :
      RoleRule names owner signature (.property signature.name (TypeRef.ofGetter names result).1
        (.get (TypeRef.ofGetter names result).2))
  | sets (tokens : List Token) (pattern : Pattern) (type : WrittenType) (member : String)
      (receiver : signature.receiver? = some (.receiver tokens true true)) (noResult : signature.result = none)
      (input : typedInputs signature = [(pattern, type)]) (named : setMember? signature.name = some member) :
      RoleRule names owner signature (.property member (TypeRef.ofWritten names type) .set)

theorem accessorRole?_rule {names : TypeNames} {signature : Signature} {role : AccessorRole}
    (found : accessorRole? names owner signature = some role) : RoleRule names owner signature role := by
  unfold accessorRole? at found
  split at found
  · next result noReceiver isResult =>
      split at found
      · next own =>
          cases found
          exact .constructs result noReceiver isResult own
      · cases found
  · next tokens result receiver isResult noInput =>
      cases found
      exact .gets tokens result receiver isResult noInput
  · next tokens pattern type receiver noResult input =>
      obtain ⟨member, named, same⟩ := Option.map_eq_some_iff.mp found
      cases same
      exact .sets tokens pattern type member receiver noResult input named
  · cases found

end

end Host

end ObjectMapping
