/-
This file says of the kinds of phrases what a proof can rely on: the tokens of expressions are phrases,
and patterns bind words.
-/

import ObjectMapping.Proofs.Source.Primitive
import ObjectMapping.Source.Grammar.Basic

namespace ObjectMapping.Source

open Reader

/-- The name that a pattern binds, if it binds one, is a word. -/
def Pattern.IsSound : Pattern → Prop
  | .name _ binder => (Lexeme.word binder).IsSpelt
  | .typed _ inner => inner.IsSound
  | .reference _ inner => inner.IsSound
  | _ => True

theorem Pattern.IsSound.withTokens {pattern : Pattern} (sound : pattern.IsSound) (tokens : List Token) :
    (pattern.withTokens tokens).IsSound := by
  cases pattern <;> exact sound

/-- The tokens of the expression and of those in it are phrases, its parameters bind words, and the fields in it that
have names have words for them. -/
inductive Expression.IsSound : Expression → Prop
  | closure {tokens : List Token} {params : List Pattern} {body : Expression} (phrase : IsPhrase tokens)
      (paramsSound : ∀ param ∈ params, param.IsSound) (bodySound : body.IsSound) :
      IsSound (.closure tokens params body)
  | path {tokens argumentTokens : List Token} {head : PathHead} {types : List WrittenType}
      (phrase : IsPhrase tokens) : IsSound (.path tokens head types argumentTokens)
  | field {tokens : List Token} {base : Expression} {member : Option String} (phrase : IsPhrase tokens)
      (baseSound : base.IsSound) (named : ∀ name ∈ member, (Lexeme.word name).IsSpelt) :
      IsSound (.field tokens base member)
  | call {tokens : List Token} {function : Expression} {arguments : List Expression}
      (phrase : IsPhrase tokens) (functionSound : function.IsSound)
      (argumentsSound : ∀ argument ∈ arguments, argument.IsSound) :
      IsSound (.call tokens function arguments)
  | array {tokens : List Token} {elements : List Expression} (phrase : IsPhrase tokens)
      (elementsSound : ∀ element ∈ elements, element.IsSound) : IsSound (.array tokens elements)
  | wrapped {tokens : List Token} {inner : Expression} (phrase : IsPhrase tokens)
      (innerSound : inner.IsSound) : IsSound (.wrapped tokens inner)
  | block {tokens : List Token} (phrase : IsPhrase tokens) : IsSound (.block tokens)
  | statementLike {tokens : List Token} (phrase : IsPhrase tokens) : IsSound (.statementLike tokens)
  | macroCall {tokens : List Token} {isBraced : Bool} (phrase : IsPhrase tokens) :
      IsSound (.macroCall tokens isBraced)
  | range {tokens : List Token} (phrase : IsPhrase tokens) : IsSound (.range tokens)
  | comparison {tokens : List Token} (phrase : IsPhrase tokens) : IsSound (.comparison tokens)
  | other {tokens : List Token} (phrase : IsPhrase tokens) : IsSound (.other tokens)

namespace Expression.IsSound

theorem phrase {expression : Expression} (sound : expression.IsSound) : IsPhrase expression.tokens := by
  cases sound <;> assumption

theorem withTokens {expression : Expression} (sound : expression.IsSound) {tokens : List Token}
    (phrase : IsPhrase tokens) : (expression.withTokens tokens).IsSound := by
  cases sound with
  | closure _ paramsSound bodySound => exact .closure phrase paramsSound bodySound
  | path _ => exact .path phrase
  | field _ baseSound named => exact .field phrase baseSound named
  | call _ functionSound argumentsSound => exact .call phrase functionSound argumentsSound
  | array _ elementsSound => exact .array phrase elementsSound
  | wrapped _ innerSound => exact .wrapped phrase innerSound
  | block _ => exact .block phrase
  | statementLike _ => exact .statementLike phrase
  | macroCall _ => exact .macroCall phrase
  | range _ => exact .range phrase
  | comparison _ => exact .comparison phrase
  | other _ => exact .other phrase

/-- A form whose tokens have not been set yet. -/
theorem unset : (Expression.other []).IsSound := .other .nil

end Expression.IsSound

/-- The value of an expression statement is sound. -/
def Statement.IsSound : Statement → Prop
  | .expression _ value _ => value.IsSound
  | .other _ => True

/-- The statements in the body of a function are sound. -/
def TraitMember.IsSound : TraitMember → Prop
  | .function _ _ body => ∀ statements ∈ body, ∀ statement ∈ statements, statement.IsSound
  | .other _ => True

/-- The name of the function is a word. -/
def Signature.IsSound (signature : Signature) : Prop := (Lexeme.word signature.name).IsSpelt

def ImplMember.IsSound : ImplMember → Prop
  | .function _ signature => signature.IsSound
  | _ => True

/-- The members of a trait or of an `impl` block are sound. -/
def Item.IsSound : Item → Prop
  | .trait item => ∀ member ∈ item.members, member.IsSound
  | .impl item => ∀ member ∈ item.members, member.IsSound
  | _ => True

def FunctionInput.IsSound : FunctionInput → Prop
  | .typed _ pattern _ => pattern.IsSound
  | .receiver _ _ _ => True

/-- The function has a name, and those of its inputs that bind a name bind a word. -/
structure Signature.IsNamed (signature : Signature) : Prop where
  name : IsPlainWord signature.name
  inputs : ∀ input ∈ signature.inputs, input.IsSound

def ImplMember.IsNamed : ImplMember → Prop
  | .function _ signature => IsPlainWord signature.name
  | _ => True

def TraitMember.IsNamed : TraitMember → Prop
  | .function _ signature _ => signature.IsNamed
  | .other _ => True

/-- Structs, enums and traits have names, and so have the fields of the struct, the variants of the enum and the
functions of traits and `impl` blocks; a field can have a blank for it. -/
def Item.IsNamed : Item → Prop
  | .struct item => IsPlainWord item.name ∧
      ∀ fields ∈ item.fields, ∀ field ∈ fields, field.name = "_" ∨ IsPlainWord field.name
  | .enum item => IsPlainWord item.name ∧ ∀ variant ∈ item.variants, IsPlainWord variant.name
  | .impl item => ∀ member ∈ item.members, member.IsNamed
  | .trait item => IsPlainWord item.name ∧ ∀ member ∈ item.members, member.IsNamed
  | _ => True

/-- What is known of a member of a trait that has been read. -/
structure TraitMember.IsRead (member : TraitMember) : Prop where
  sound : member.IsSound
  named : member.IsNamed

theorem TraitMember.other_isRead (tokens : List Token) : (TraitMember.other tokens).IsRead := ⟨trivial, trivial⟩

/-- What is known of an item that has been read. -/
structure Item.IsRead (item : Item) : Prop where
  sound : item.IsSound
  named : item.IsNamed

theorem Item.other_isRead : Item.other.IsRead := ⟨trivial, trivial⟩

theorem ImplMember.IsNamed.isSound {member : ImplMember} (named : member.IsNamed) : member.IsSound := by
  cases member with
  | function => exact named.spelt
  | type | other => trivial

/-- The readers of a grammar read and write phrases and give sound forms. -/
structure Grammar.IsSound (grammar : Grammar) : Prop where
  type : ∀ allowsSum, Reads (grammar.type allowsSum)
  bound : ∀ allowsCapture allowsConst, Reads (grammar.bound allowsCapture allowsConst)
  expression : ∀ allowsStruct, Yields (grammar.expression allowsStruct) Expression.IsSound
  operand : ∀ allowsStruct, Moves (grammar.operand allowsStruct) Expression.IsSound
  ending : Yields grammar.ending Expression.IsSound
  operation : ∀ allowsStruct precedence {left : Expression}, left.IsSound →
    Yields (grammar.operation allowsStruct precedence left) Expression.IsSound
  pattern : Yields grammar.pattern Pattern.IsSound
  statements : Yields grammar.statements fun found => ∀ statement ∈ found, statement.IsSound
  item : Yields grammar.item Item.IsRead
  useTree : ∀ allowsRoot, Reads (grammar.useTree allowsRoot)

theorem Grammar.none_isSound : Grammar.none.IsSound where
  type _ := .refuse _
  bound _ _ := .refuse _
  expression _ := .refuse _
  operand _ := .refuse _
  ending := .refuse _
  operation _ _ _ _ := .refuse _
  pattern := .refuse _
  statements := .refuse _
  item := .refuse _
  useTree _ := .refuse _

end ObjectMapping.Source
