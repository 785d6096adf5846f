/-
This file reads types.
-/

import ObjectMapping.Source.Grammar.Generics

namespace ObjectMapping.Source

open Reader

/-- The type that a path stands for. -/
def ReadPath.type (found : ReadPath) : WrittenType :=
  match found.arguments.types with
  | [some argument] => .application [] found.head argument
  | _ => .path [] found.head

/-- The bounds of a trait object, one of which has to be a trait. -/
def objectBounds (grammar : Grammar) (allowsSum : Bool) : Reader Unit := do
  let bounds ← typeBounds grammar allowsSum false false
  if !bounds.contains .trait then
    refuse "at least one trait"

/-- Further bounds behind a first one. -/
def furtherBounds (grammar : Grammar) : Reader Unit := do
  let _ ← many (Ahead.isMark "+") do
    mark "+"
    grammar.bound false false

/-- Whether a type in parentheses can be the first bound of a sum. -/
def isBoundLike (type : WrittenType) : Bool :=
  type.head?.any (fun head => !head.isQualified) || Ahead.isWord "for" type.tokens

/-- What a pair of parentheses holds in a type. -/
inductive Enclosed
  | tuple
  /-- A bound with a question mark, with which a sum starts. -/
  | maybeBound
  | single (inner : WrittenType)

/-- What a type in parentheses holds. -/
def enclosed (grammar : Grammar) : Reader Enclosed := do
  if ← seesEnd then
    return .tuple
  else if ← sees Ahead.isLifetime then
    let (tokens, _) ← capture (objectBounds grammar true)
    return .single (.other tokens)
  else if ← seesMark "?" then
    let _ ← traitBound grammar false
    return .maybeBound
  else
    let first ← grammar.type true
    if ← mark? "," then
      let _ ← commaList (grammar.type true)
      return .tuple
    else
      return .single first

/-- A type that starts with a parenthesis. -/
def parenthesizedType (grammar : Grammar) (allowsSum : Bool) : Reader WrittenType := do
  match ← within .parenthesis (enclosed grammar) with
  | .tuple => return .other []
  | .maybeBound =>
      furtherBounds grammar
      return .other []
  | .single inner =>
      if allowsSum && isBoundLike inner && (← seesMark "+") then
        furtherBounds grammar
        return .other []
      else
        return .grouped [] inner

/-- An argument of a function type. -/
def functionTypeArgument (grammar : Grammar) (allowsSelf : Bool) : Reader Unit := do
  if allowsSelf && (← sees fun tokens =>
      Ahead.isWord "mut" tokens && Ahead.second (Ahead.isWord "self") tokens) then
    verbatim do
      keyword "mut"
      keyword "self"
      if ← mark? ":" then
        let _ ← grammar.type true
  else
    let isNamed ← sees fun tokens =>
      (Ahead.isName tokens || Ahead.isWord "_" tokens ||
          (allowsSelf && Ahead.isWord "self" tokens)) &&
        Ahead.second (Ahead.isMark ":") tokens && !Ahead.second (Ahead.isMark "::") tokens
    if isNamed then
      let _ ← anyWord
      mark ":"
    let _ ← grammar.type true

/-- Whether dots for any further arguments come, which can have a name. -/
def startsVariadic (tokens : List Token) : Bool :=
  Ahead.isMark "..." tokens ||
    ((Ahead.isName tokens || Ahead.isWord "_" tokens) && Ahead.second (Ahead.isMark ":") tokens &&
      Ahead.third (Ahead.isMark "...") tokens)

def functionTypeVariadic : Reader Unit := do
  if !(← seesMark "...") then
    let _ ← anyWord
    mark ":"
  mark "..."
  let _ ← mark? ","

/-- The arguments of a function type, at most as many as the budget allows. -/
def functionTypeArguments (grammar : Grammar) (isFirst : Bool) : Nat → Reader Unit
  | 0 => refuse "token"
  | budget + 1 => do
      if !(← seesEnd) then
        let _ ← outerAttributes grammar
        if ← sees startsVariadic then
          functionTypeVariadic
        else
          functionTypeArgument grammar isFirst
          if !(← seesEnd) then
            mark ","
            functionTypeArguments grammar false budget

def functionType (grammar : Grammar) : Reader WrittenType := do
  let _ ← keyword? "unsafe"
  let _ ← interface?
  keyword "fn"
  within .parenthesis do
    functionTypeArguments grammar true (← budget)
  let _ ← result? grammar false
  return .other []

/-- A type that starts with a path: the path itself, a macro call, or a sum of bounds. -/
def pathType (grammar : Grammar) (allowsSum isBinding : Bool) : Reader WrittenType := do
  let found ← path grammar false
  if found.head.isQualified then
    return found.type
  else if found.isPlain && (← sees startsMacroSign) then
    mark "!"
    let _ ← macroArguments
    return .other []
  else if allowsSum && (← seesMark "+") then
    mark "+"
    if ← sees (startsBound false) then
      let _ ← typeBounds grammar true false false
    return .other []
  else if isBinding then
    return .other []
  else
    return found.type

def dynamicType (grammar : Grammar) (allowsSum : Bool) : Reader WrittenType := do
  if ← sees (Ahead.second (Ahead.isMark "*")) then
    verbatim do
      keyword "dyn"
      mark "*"
      objectBounds grammar allowsSum
  else
    keyword "dyn"
    objectBounds grammar allowsSum
  return .other []

def opaqueType (grammar : Grammar) (allowsSum : Bool) : Reader WrittenType := do
  keyword "impl"
  let bounds ← typeBounds grammar allowsSum true true
  if bounds.contains .trait || bounds.contains .other then
    return .other []
  else
    refuse "at least one trait"

def bracketType (grammar : Grammar) : Reader WrittenType :=
  within .bracket do
    let element ← grammar.type true
    if ← mark? ";" then
      let _ ← grammar.expression true
      return .other []
    else
      return .slice [] element

def pointerType (grammar : Grammar) : Reader WrittenType := do
  mark "*"
  if !(← keyword? "const") then
    keyword "mut"
  let _ ← grammar.type false
  return .other []

def referenceType (grammar : Grammar) : Reader WrittenType := do
  mark "&"
  lifetime?
  let isMutable ← keyword? "mut"
  let target ← grammar.type false
  return .reference [] isMutable target

def startsFunctionType (tokens : List Token) : Bool :=
  ["fn", "unsafe", "extern"].any fun text => Ahead.isWord text tokens

/-- A type, whose tokens are not set. -/
def typeForm (grammar : Grammar) (allowsSum : Bool) : Reader WrittenType := do
  if ← seesWord "for" then
    let _ ← boundParameters grammar
    if ← sees startsFunctionType then
      functionType grammar
    else if ← sees fun tokens => Ahead.isName tokens || Ahead.isPathWord tokens then
      pathType grammar allowsSum true
    else
      refuse "type"
  else if ← sees (Ahead.isOpening .parenthesis) then
    parenthesizedType grammar allowsSum
  else if ← sees startsFunctionType then
    functionType grammar
  else if ← sees startsPath then
    pathType grammar allowsSum false
  else if ← seesWord "dyn" then
    dynamicType grammar allowsSum
  else if ← sees (Ahead.isOpening .bracket) then
    bracketType grammar
  else if ← seesMark "*" then
    pointerType grammar
  else if ← seesMark "&" then
    referenceType grammar
  else if ← seesMark "!" then
    mark "!"
    return .other []
  else if ← seesWord "impl" then
    opaqueType grammar allowsSum
  else if ← seesWord "_" then
    keyword "_"
    return .other []
  else if ← sees Ahead.isLifetime then
    objectBounds grammar true
    return .other []
  else
    refuse "type"

def type (grammar : Grammar) (allowsSum : Bool) : Reader WrittenType := do
  let (tokens, form) ← capture (typeForm grammar allowsSum)
  return form.withTokens tokens

end ObjectMapping.Source
