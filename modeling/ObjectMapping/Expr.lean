/-
This file defines the value expressions of a mapping plan and their text. An expression keeps the
types of what it reads, from which the generated code decides between moving, cloning and borrowing.
-/

import ObjectMapping.Schema.Member

namespace ObjectMapping

inductive Expr
  /-- Reads a member of a parameter. -/
  | member (owner name : String) (kind : MemberKind) (type : TypeRef)
  /-- A further parameter of the mapping method. -/
  | param (name : String)
  /-- The element that a collection transform binds; it is borrowed. -/
  | item (name : String) (type : TypeRef)
  /-- What the user wrote, over the parameters of the mapping method. -/
  | verbatim (written : String)
  /-- Converts to a wider scalar. -/
  | widen (value : Expr) (target : Scalar)
  /-- Puts a value into an option. -/
  | some (value : Expr)
  /-- Calls a generated function that converts enums. -/
  | enumConvert (function : String) (value : Expr)
  /-- Calls a method of an included mapper: the value, then forwarded parameters. -/
  | delegate (mapper method : String) (arguments : List Expr)
  /-- Transforms each element of a collection that is read from a member. -/
  | collect (source : Expr) (binder : String) (transform : Expr) (target : CollectionKind)
  /-- Transforms each element of a collection that the user wrote. -/
  | collectVerbatim (source binder : String) (transform : Expr) (target : CollectionKind)
  deriving Repr

namespace Expr

def isVerbatim : Expr → Bool
  | .verbatim _ => true
  | _ => false

/-- The text of what follows the iterator over a collection. -/
def collectingText (binder transform : String) (target : CollectionKind) : String :=
  s!".map(|{binder}| {transform}).collect::<{target.collectTarget}>()"

/-- The text of the expression in a report. -/
def text : Expr → String
  | .member owner name .field _ => s!"{owner}.{name}"
  | .member owner name .property _ => s!"{owner}.{name}()"
  | .param name => name
  | .item name _ => name
  | .verbatim written => written
  | .widen value target => s!"{target.ident}::from({value.text})"
  | .some value => s!"Some({value.text})"
  | .enumConvert function value => s!"{function}({value.text})"
  | .delegate mapper method arguments =>
      s!"self.{mapper}.{method}(" ++ ", ".intercalate (arguments.map text) ++ ")"
  | .collect source binder transform target =>
      s!"{source.text}.iter()" ++ collectingText binder transform.text target
  | .collectVerbatim source binder transform target =>
      s!"({source}).into_iter()" ++ collectingText binder transform.text target

end Expr

end ObjectMapping
