/-
This file reads the members of structs and enums, and those of `impl` blocks, traits and foreign blocks.
A member of a form that only few programs use is written out as it stands.
-/

import ObjectMapping.Source.Grammar.Signature
import ObjectMapping.Source.Grammar.Attribute

namespace ObjectMapping.Source

open Reader

/-- The type of a field without a name that holds fields itself. -/
def startsAnonymousFields (tokens : List Token) : Bool :=
  Ahead.isWord "struct" tokens ||
    (Ahead.isWord "union" tokens && Ahead.second (Ahead.isOpening .brace) tokens)

def namedField (grammar : Grammar) : Reader Field := do
  let attributes ← fieldAttributes grammar
  let seen ← visibility
  let text ← nameOr "_"
  mark ":"
  if text == "_" && (← sees startsAnonymousFields) then
    let (tokens, _) ← capture do
      tree
      let _ ← brackets
    return ⟨text, seen == .everywhere, .other tokens, attributes⟩
  else
    return ⟨text, seen == .everywhere, ← grammar.type true, attributes⟩

def namedFields (grammar : Grammar) : Reader (List Field) :=
  within .brace (commaList (namedField grammar))

def countedField (grammar : Grammar) : Reader Unit := do
  let _ ← fieldAttributes grammar
  let _ ← visibility
  let _ ← grammar.type true

def countedFieldList (grammar : Grammar) : Reader Unit :=
  within .parenthesis do
    let _ ← commaList (countedField grammar)

/-- A variant of an enum; a visibility in front of it is dropped. -/
def variant (grammar : Grammar) : Reader Variant := do
  let _ ← outerAttributes grammar
  let _ ← withhold visibility
  let text ← name
  let isUnit ←
    if ← sees (Ahead.isOpening .brace) then
      let _ ← namedFields grammar
      pure false
    else if ← sees (Ahead.isOpening .parenthesis) then
      countedFieldList grammar
      pure false
    else
      pure true
  if ← mark? "=" then
    let _ ← grammar.expression true
  return ⟨text, isUnit⟩

/-- The body of a function or a semicolon in its place. -/
def bodyOrSemicolon (grammar : Grammar) : Reader (Option (List Statement)) := do
  if ← sees (Ahead.isOpening .brace) then
    return some (← bodyBlock grammar)
  else
    mark ";"
    return none

/-- Whether a macro call can come where members stand. -/
def startsMacroPath (tokens : List Token) : Bool :=
  Ahead.isName tokens || ["self", "super", "crate"].any (fun text => Ahead.isWord text tokens) ||
    Ahead.isMark "::" tokens

/-- A macro call as a member, with its semicolon unless it has braces. -/
def macroMember : Reader Unit := do
  let _ ← plainPath
  mark "!"
  if !(← macroArguments) then
    mark ";"

/-- Where the conditions of a type alias stand. -/
inductive ConditionPlace
  | beforeType
  | afterType
  | either
  deriving DecidableEq

/-- A type alias behind its visibility: whether it has a colon, its name and its type. A colon without
bounds is dropped with them. -/
def typeAlias (grammar : Grammar) (place : ConditionPlace) :
    Reader (Bool × String × Option WrittenType) := do
  keyword "type"
  let text ← name
  let _ ← generics grammar
  let hasColon ← seesMark ":"
  let isBoundEnd (tokens : List Token) : Bool :=
    Ahead.isWord "where" tokens || Ahead.isMark "=" tokens || Ahead.isMark ";" tokens
  optionalBounds (separated isBoundEnd "+" (grammar.bound false true))
  let hasConditions ← if place == .afterType then pure false else whereClause grammar
  let type ←
    if ← mark? "=" then
      pure (some (← grammar.type true))
    else
      pure none
  if place == .afterType || (place == .either && !hasConditions) then
    let _ ← whereClause grammar
  mark ";"
  return (hasColon, text, type)

/-- A constant behind its visibility: whether it has parameters or conditions, and whether it has a
value. -/
def constant (grammar : Grammar) : Reader (Bool × Bool) := do
  keyword "const"
  let _ ← nameOr "_"
  let hasAngles ← seesMark "<"
  let _ ← generics grammar
  mark ":"
  let _ ← grammar.type true
  let hasValue ← mark? "="
  if hasValue then
    let _ ← grammar.expression true
  let hasConditions ← whereClause grammar
  mark ";"
  return (hasAngles || hasConditions, hasValue)

/-- Whether a constant comes, and not a function that is one. -/
def startsConstant (tokens : List Token) : Bool :=
  Ahead.isWord "const" tokens &&
    (Ahead.second Ahead.isName tokens || Ahead.second (Ahead.isWord "_") tokens)

/-- Whether `default` comes as a word of its own. -/
def startsDefault (tokens : List Token) : Bool :=
  Ahead.isWord "default" tokens && !Ahead.second (Ahead.isMark "!") tokens

/-- A member of an `impl` block, and whether it is written out as it stands. -/
def implMemberForm (grammar : Grammar) : Reader (Bool × ImplMember) := do
  let _ ← outerAttributes grammar
  let seen ← visibility
  let isDefault ← sees startsDefault
  if isDefault then
    keyword "default"
  if ← sees (startsFunction false) then
    let head ← signature grammar
    let body ← bodyOrSemicolon grammar
    match body with
    | some _ => return (false, .function (seen == .everywhere) head)
    | none => return (true, .other)
  else if ← sees startsConstant then
    let (isGeneric, hasValue) ← constant grammar
    return (isGeneric || !hasValue, .other)
  else if ← seesWord "type" then
    match ← typeAlias grammar .afterType with
    | (false, text, some type) => return (false, .type text type)
    | _ => return (true, .other)
  else if seen == .inherited && !isDefault && (← sees startsMacroPath) then
    macroMember
    return (false, .other)
  else
    refuse "member"

def implMember (grammar : Grammar) : Reader ImplMember := verbatimIf (implMemberForm grammar)

/-- A member of a trait, and whether it is written out as it stands. -/
def traitMemberForm (grammar : Grammar) : Reader (Bool × TraitMember) := do
  let _ ← outerAttributes grammar
  let seen ← visibility
  let isDefault ← keyword? "default"
  let isMarked := isDefault || seen != .inherited
  if ← sees (startsFunction false) then
    let head ← signature grammar
    let body ← bodyOrSemicolon grammar
    return (isMarked, if isMarked then .other [] else .function [] head body)
  else if ← sees startsConstant then
    let (isGeneric, _) ← constant grammar
    return (isMarked || isGeneric, .other [])
  else if ← seesWord "type" then
    let _ ← typeAlias grammar .afterType
    return (isMarked, .other [])
  else if !isMarked && (← sees startsMacroPath) then
    macroMember
    return (false, .other [])
  else
    refuse "member"

def traitMember (grammar : Grammar) : Reader TraitMember := do
  let (tokens, form) ← capture (verbatimIf (traitMemberForm grammar))
  match form with
  | .function _ head body => return .function tokens head body
  | .other _ => return .other tokens

/-- A static of a foreign block behind its visibility; it says whether it is written out as it
stands. -/
def foreignStatic (grammar : Grammar) : Reader Bool := do
  let isUnsafe ← keyword? "unsafe"
  let isSafe ← if isUnsafe then pure false else keyword? "safe"
  keyword "static"
  let _ ← keyword? "mut"
  let _ ← name
  mark ":"
  let _ ← grammar.type true
  let hasValue ← mark? "="
  if hasValue then
    let _ ← grammar.expression true
  mark ";"
  return isUnsafe || isSafe || hasValue

def startsForeignStatic (tokens : List Token) : Bool :=
  Ahead.isWord "static" tokens ||
    ((Ahead.isWord "unsafe" tokens || Ahead.isWord "safe" tokens) &&
      Ahead.second (Ahead.isWord "static") tokens)

def foreignMemberForm (grammar : Grammar) : Reader (Bool × Unit) := do
  let _ ← outerAttributes grammar
  let seen ← visibility
  if ← sees (startsFunction true) then
    let (isSafe, _) ← markedSignature grammar true
    let body ← bodyOrSemicolon grammar
    return (isSafe || body.isSome, ())
  else if ← sees startsForeignStatic then
    return (← foreignStatic grammar, ())
  else if ← seesWord "type" then
    let (hasColon, _, type) ← typeAlias grammar .either
    return (hasColon || type.isSome, ())
  else if seen == .inherited && (← sees startsMacroPath) then
    macroMember
    return (false, ())
  else
    refuse "member"

def foreignMember (grammar : Grammar) : Reader Unit := verbatimIf (foreignMemberForm grammar)

end ObjectMapping.Source
