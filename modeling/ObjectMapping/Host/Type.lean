/-
This file reads type references from written types. What is neither a scalar, an option, a known
collection nor a declared name is known by its text alone.
-/

import ObjectMapping.Source.Syntax
import ObjectMapping.TypeRef

namespace ObjectMapping

open Source

/-- The types behind declared names. -/
abbrev TypeNames := String → Option TypeId

namespace TypeRef

/-- The type that a name without arguments stands for, if it is known. -/
def ofHead? (names : TypeNames) (head : PathHead) : Option TypeRef :=
  if head.isQualified || head.arguments != .none then none
  else if head.segments == 1 then
    match Scalar.ofIdent? head.last with
    | some value => some (.scalar value)
    | none => (names head.last).map .named
  else if head.last == Scalar.string.ident then some (.scalar .string)
  else none

/-- The reference that a written type stands for. -/
def ofWritten (names : TypeNames) : WrittenType → TypeRef
  | .grouped _ inner => ofWritten names inner
  | .path tokens head => (ofHead? names head).getD (.foreign (tokensText tokens))
  | .application tokens head argument =>
      if head.isQualified then .foreign (tokensText tokens)
      else if head.last == "Option" then .nullable (ofWritten names argument)
      else
        match CollectionKind.ofGeneric? head.last with
        | some kind => .collection kind (ofWritten names argument)
        | none =>
            match CollectionKind.ofSliceOwner? head.last, argument with
            | some kind, .slice _ element => .collection kind (ofWritten names element)
            | _, _ => .foreign (tokensText tokens)
  | .reference tokens _ _ => .foreign (tokensText tokens)
  | .slice tokens _ => .foreign (tokensText tokens)
  | .other tokens => .foreign (tokensText tokens)

/-- The type behind the borrow that a parameter takes. -/
def behindBorrow (names : TypeNames) : WrittenType → TypeRef
  | .reference _ _ target => ofWritten names target
  | type => ofWritten names type

/-- The type of a property by the result of its getter, and whether the getter lends it. A lent text
slice reads as a string. -/
def ofGetter (names : TypeNames) : WrittenType → TypeRef × Bool
  | .reference _ _ target =>
      if target.ident? == some "str" then (.scalar .string, true) else (ofWritten names target, true)
  | type => (ofWritten names type, false)

end TypeRef

end ObjectMapping
