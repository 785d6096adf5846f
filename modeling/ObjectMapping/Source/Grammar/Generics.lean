/-
This file reads bounds, generic parameters and `where` clauses. An empty list of bounds is dropped with
its colon, and an empty list of parameters or conditions with all that belongs to it.
-/

import ObjectMapping.Source.Grammar.Path

namespace ObjectMapping.Source

open Reader

/-- Bounds with plus signs between them until the test holds. -/
def boundsUntil (grammar : Grammar) (stop : List Token → Bool) : Reader (List BoundForm) := do
  if ← sees stop then
    return []
  else
    joined "+" (fun tokens => !stop tokens) (grammar.bound false true)

/-- Reads bounds behind a colon, if it comes; a colon without bounds is dropped. -/
def optionalBounds {α : Type} (bounds : Reader (List α)) : Reader Unit := do
  if ← seesMark ":" then
    let colon ← dropMark ":"
    let (tokens, found) ← withhold bounds
    if !found.isEmpty then
      write (glued ":" colon ++ tokens)

def isParameterEnd (tokens : List Token) : Bool :=
  Ahead.isEnd tokens || isBoundsEnd tokens

def lifetimeParameter : Reader Unit := do
  lifetime
  optionalBounds do
    if ← sees isParameterEnd then
      return []
    else
      joined "+" (fun tokens => !isParameterEnd tokens) lifetime

def typeParameter (grammar : Grammar) : Reader Unit := do
  let _ ← name
  optionalBounds (boundsUntil grammar fun tokens =>
    isParameterEnd tokens || Ahead.isMark "=" tokens)
  if ← mark? "=" then
    let _ ← grammar.type true

def constParameter (grammar : Grammar) : Reader Unit := do
  keyword "const"
  let _ ← name
  mark ":"
  let _ ← grammar.type true
  if ← mark? "=" then
    constArgument grammar

/-- A generic parameter; it says whether the parameter is a lifetime. -/
def genericParameter (grammar : Grammar) : Reader (Bool × Unit) := do
  let _ ← outerAttributes grammar
  if ← sees Ahead.isLifetime then
    lifetimeParameter
    return (true, ())
  else if ← sees Ahead.isName then
    typeParameter grammar
    return (false, ())
  else if ← seesWord "const" then
    constParameter grammar
    return (false, ())
  else
    keyword "_"
    return (false, ())

/-- Generic parameters, if they come; it says whether there are any. -/
def generics (grammar : Grammar) : Reader Bool := do
  if ← seesMark "<" then
    let parameters ← angled false (genericParameter grammar)
    return !parameters.isEmpty
  else
    return false

/-- The parameters that a bound or function type binds by `for`, if they come. -/
def boundParameters (grammar : Grammar) : Reader Bool := do
  if ← keyword? "for" then
    mark "<"
    let _ ← separated (Ahead.isMark ">") "," (genericParameter grammar)
    mark ">"
    return true
  else
    return false

/-- The result type behind an arrow, if it comes. -/
def result? (grammar : Grammar) (allowsSum : Bool) : Reader (Option WrittenType) := do
  if ← mark? "->" then
    return some (← grammar.type allowsSum)
  else
    return none

/-- The arguments in parentheses of a function trait, and its result. -/
def functionArguments (grammar : Grammar) : Reader Unit := do
  within .parenthesis do
    let _ ← commaList (grammar.type true)
  let _ ← result? grammar false

/-- Whether arguments in parentheses come behind the path of a trait. -/
def startsFunctionArguments (tokens : List Token) : Bool :=
  Ahead.isOpening .parenthesis tokens ||
    (Ahead.isMark "::" tokens && Ahead.third (Ahead.isOpening .parenthesis) tokens)

/-- A trait as a bound. A question mark is written in front of the parameters that are bound. -/
def traitBound (grammar : Grammar) (allowsConst : Bool) : Reader BoundForm := do
  let (parameters, isBinding) ← withhold (boundParameters grammar)
  let isConst ←
    if !allowsConst then pure false
    else if ← sees (Ahead.isOpening .bracket) then
      within .bracket (keyword "const")
      pure true
    else
      keyword? "const"
  let isMaybe ← mark? "?"
  write parameters
  if isMaybe && !isBinding then
    let _ ← boundParameters grammar
  let found ← unqualifiedPath grammar false
  if found.head.arguments == .none then
    if ← sees startsFunctionArguments then
      if ← seesMark "::" then
        let _ ← dropMark "::"
      functionArguments grammar
  return if isConst then .other else .trait

/-- The lifetimes and parameters that an opaque type can use. -/
def captureBound : Reader Unit := do
  keyword "use"
  mark "<"
  let _ ← separated (Ahead.isMark ">") "," do
    if ← sees Ahead.isLifetime then
      lifetime
    else
      let _ ← nameOr "Self"
  mark ">"

def bound (grammar : Grammar) (allowsCapture allowsConst : Bool) : Reader BoundForm := do
  if ← sees Ahead.isLifetime then
    lifetime
    return .lifetime
  else if ← seesWord "use" then
    if allowsCapture then
      captureBound
      return .capture
    else
      refuse "bound"
  else if ← sees (Ahead.isOpening .parenthesis) then
    within .parenthesis (traitBound grammar allowsConst)
  else
    traitBound grammar allowsConst

/-- Whether a further bound comes behind a plus sign in a type. -/
def startsBound (allowsConst : Bool) (tokens : List Token) : Bool :=
  Ahead.isAnyWord tokens || Ahead.isMark "::" tokens || Ahead.isMark "?" tokens ||
    Ahead.isLifetime tokens || Ahead.isOpening .parenthesis tokens ||
    (allowsConst && (Ahead.isOpening .bracket tokens || Ahead.isWord "const" tokens))

/-- The bounds of a type: one, or a sum where sums are possible. -/
def typeBounds (grammar : Grammar) (allowsSum allowsCapture allowsConst : Bool) :
    Reader (List BoundForm) := do
  if allowsSum then
    joined "+" (startsBound allowsConst) (grammar.bound allowsCapture allowsConst)
  else
    return [← grammar.bound allowsCapture allowsConst]

/-- Whether the conditions of a `where` clause end. -/
def isConditionsEnd (tokens : List Token) : Bool :=
  Ahead.isEnd tokens || Ahead.isOpening .brace tokens || Ahead.isMark ";" tokens ||
    (Ahead.isMark ":" tokens && !Ahead.isMark "::" tokens) || Ahead.isMark "=" tokens

def isConditionEnd (tokens : List Token) : Bool :=
  isConditionsEnd tokens || Ahead.isMark "," tokens

def condition (grammar : Grammar) : Reader Unit := do
  if ← sees fun tokens => Ahead.isLifetime tokens && Ahead.second (Ahead.isMark ":") tokens then
    lifetime
    mark ":"
    if !(← sees isConditionEnd) then
      let _ ← joined "+" (fun tokens => !isConditionEnd tokens) lifetime
  else
    let _ ← boundParameters grammar
    let _ ← grammar.type true
    mark ":"
    let _ ← boundsUntil grammar isConditionEnd

/-- A `where` clause, if it comes; one without conditions is dropped. It says whether the word
comes. -/
def whereClause (grammar : Grammar) : Reader Bool := do
  if ← seesWord "where" then
    let (tokens, conditions) ← withhold do
      keyword "where"
      if ← sees isConditionEnd then
        return []
      else
        joined "," (fun tokens => !isConditionEnd tokens) (condition grammar)
    if !conditions.isEmpty then
      write tokens
    return true
  else
    return false

/-- The binary interface of a function, if it is named. -/
def interface? : Reader Bool := do
  if ← keyword? "extern" then
    if ← sees Ahead.isTextLiteral then
      let _ ← literal
    return true
  else
    return false

end ObjectMapping.Source
