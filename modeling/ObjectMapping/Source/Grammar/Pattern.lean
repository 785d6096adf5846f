/-
This file reads patterns.
-/

import ObjectMapping.Source.Grammar.FieldName
import ObjectMapping.Source.Grammar.Generics

namespace ObjectMapping.Source

open Reader

/-- Whether the sign of an alternative comes. -/
def startsAlternative (tokens : List Token) : Bool :=
  Ahead.isMark "|" tokens && !Ahead.isMark "||" tokens && !Ahead.isMark "|=" tokens

/-- A pattern with alternatives, which can have the sign in front of the first. -/
def alternatives (grammar : Grammar) : Reader Pattern := do
  let (tokens, isLed, found) ← capture do
    let isLed ← mark? "|"
    let patterns ← joinedWithin startsAlternative (mark "|") (fun _ => true) grammar.pattern
      (← budget)
    return (isLed, patterns)
  match isLed, found with
  | false, [single] => return single
  | _, _ => return .other tokens

/-- Whether no upper end of a range comes. -/
def isRangeEnd (tokens : List Token) : Bool :=
  Ahead.isEnd tokens || Ahead.isMark "|" tokens || Ahead.isMark "=" tokens ||
    (Ahead.isMark ":" tokens && !Ahead.isMark "::" tokens) || Ahead.isMark "," tokens ||
    Ahead.isMark ";" tokens || Ahead.isWord "if" tokens

/-- An end of a range: a literal, a path or a constant block. -/
def rangeBound (grammar : Grammar) : Reader Unit := do
  if ← sees Ahead.isLiteral then
    let _ ← literal
  else if ← seesWord "const" then
    keyword "const"
    let _ ← bodyBlock grammar
  else
    let _ ← path grammar true

/-- The sign of a range; three dots are written as the sign of a closed one. It says whether the upper
end belongs to the range. -/
def rangeSign : Reader Bool := do
  if ← mark? "..=" then
    return true
  else if ← seesMark "..." then
    let location ← dropMark "..."
    write (glued "..=" location)
    return true
  else
    mark ".."
    return false

/-- The sign of a range and what follows it; only a half-open range can lack its upper end. -/
def rangeTail (grammar : Grammar) : Reader Pattern := do
  let isClosed ← rangeSign
  if ← sees isRangeEnd then
    if isClosed then
      refuse "range upper bound"
    else
      return .openRange []
  else
    rangeBound grammar
    return .other []

/-- A pattern that starts with a literal or a constant block. -/
def literalPattern (grammar : Grammar) : Reader Pattern := do
  rangeBound grammar
  if ← seesMark ".." then
    rangeTail grammar
  else
    return .other []

/-- A range without a lower end, or the two dots that stand for what is left. -/
def leadingRange (grammar : Grammar) : Reader Pattern := do
  let isClosed ← mark? "..="
  if !isClosed then
    mark ".."
  if ← sees isRangeEnd then
    if isClosed then
      refuse "range upper bound"
    else
      return .rest []
  else
    rangeBound grammar
    return .openRange []

def namePattern (grammar : Grammar) : Reader Pattern := do
  let _ ← keyword? "ref"
  let _ ← keyword? "mut"
  let text ← nameOr "self"
  if ← mark? "@" then
    let _ ← grammar.pattern
  return .name [] text

/-- A field in a struct pattern. -/
def patternField (grammar : Grammar) : Reader Unit := do
  if ← seesWord "box" then
    verbatim do
      keyword "box"
      let _ ← keyword? "ref"
      let _ ← keyword? "mut"
      let _ ← name
  else
    let isReference ← keyword? "ref"
    let isMutable ← keyword? "mut"
    if isReference || isMutable then
      let _ ← name
    else
      let member ← fieldName
      if member.isNone || (← seesMark ":") then
        mark ":"
        let _ ← alternatives grammar

/-- The fields of a struct pattern, at most as many as the budget allows. -/
def patternFields (grammar : Grammar) : Nat → Reader Unit
  | 0 => refuse "token"
  | budget + 1 => do
      if !(← seesEnd) then
        let _ ← outerAttributes grammar
        if !(← mark? "..") then
          patternField grammar
          if !(← seesEnd) then
            mark ","
            patternFields grammar budget

/-- A pattern that starts with a path. -/
def pathPattern (grammar : Grammar) : Reader Pattern := do
  let found ← path grammar true
  if !found.head.isQualified && found.isPlain && (← sees startsMacroSign) then
    mark "!"
    let _ ← macroArguments
    return .other []
  else if ← sees (Ahead.isOpening .brace) then
    within .brace do
      patternFields grammar (← budget)
    return .other []
  else if ← sees (Ahead.isOpening .parenthesis) then
    within .parenthesis do
      let _ ← commaList (alternatives grammar)
    return .other []
  else if ← seesMark ".." then
    rangeTail grammar
  else
    return .other []

def slicePattern (grammar : Grammar) : Reader Pattern :=
  within .bracket do
    let _ ← commaList do
      match ← alternatives grammar with
      | .openRange _ => refuse "pattern"
      | _ => return ()
    return .other []

/-- Whether a pattern that starts with a path comes. -/
def startsPathPattern (tokens : List Token) : Bool :=
  (Ahead.isName tokens &&
      (Ahead.second (Ahead.isMark "::") tokens || Ahead.second (Ahead.isMark "!") tokens ||
        Ahead.second (Ahead.isOpening .brace) tokens ||
        Ahead.second (Ahead.isOpening .parenthesis) tokens ||
        Ahead.second (Ahead.isMark "..") tokens)) ||
    (Ahead.isWord "self" tokens && Ahead.second (Ahead.isMark "::") tokens) ||
    Ahead.isMark "::" tokens || Ahead.isMark "<" tokens || Ahead.isWord "Self" tokens ||
    Ahead.isWord "super" tokens || Ahead.isWord "crate" tokens

def startsNamePattern (tokens : List Token) : Bool :=
  ["ref", "mut", "self"].any (fun text => Ahead.isWord text tokens) || Ahead.isName tokens

/-- A pattern without alternatives, whose tokens are not set. -/
def patternForm (grammar : Grammar) : Reader Pattern := do
  if ← sees startsPathPattern then
    pathPattern grammar
  else if ← seesWord "_" then
    keyword "_"
    return .wild []
  else if ← seesWord "box" then
    verbatim do
      keyword "box"
      let _ ← grammar.pattern
    return .other []
  else if ← sees fun tokens => Ahead.isLiteral tokens || Ahead.isWord "const" tokens then
    literalPattern grammar
  else if ← sees startsNamePattern then
    namePattern grammar
  else if ← seesMark "&" then
    mark "&"
    let _ ← keyword? "mut"
    let inner ← grammar.pattern
    return .reference [] inner
  else if ← sees (Ahead.isOpening .parenthesis) then
    within .parenthesis do
      let _ ← commaList (alternatives grammar)
    return .other []
  else if ← sees (Ahead.isOpening .bracket) then
    slicePattern grammar
  else if ← sees fun tokens => Ahead.isMark ".." tokens && !Ahead.isMark "..." tokens then
    leadingRange grammar
  else
    refuse "pattern"

def pattern (grammar : Grammar) : Reader Pattern := do
  let (tokens, form) ← capture (patternForm grammar)
  return form.withTokens tokens

end ObjectMapping.Source
