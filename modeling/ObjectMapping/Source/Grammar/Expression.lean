/-
This file reads operands: literals, paths, calls, blocks and all else that holds no binary operator
outside brackets.
-/

import ObjectMapping.Source.Grammar.Operator
import ObjectMapping.Text.CodeRange

namespace ObjectMapping.Source

open Reader

/-- The form of a block with these statements. -/
def blockForm (statements : List Statement) : Expression :=
  match statements with
  | [.expression _ value false] => .wrapped [] value
  | _ => .block []

def arguments (grammar : Grammar) : Reader (List Expression) :=
  within .parenthesis (commaList (grammar.expression true))

/-- The parts of a number with points, each of which counts a field; the last is empty where the number
ends with its point. -/
def countedParts (text : List Char) : List (List Char) := Text.splitOnChars (· == '.') text

/-- Writes the fields that a number with points stands for. It says whether a field has still to
follow. -/
def writeCountedFields (location : Location) : List (List Char) → Reader Bool
  | [] => return false
  | [last] =>
      if last.isEmpty then
        return true
      else
        match fieldNumber? last with
        | some text => do
            write [⟨.literal text, location⟩]
            return false
        | none => refuse "unsuffixed integer"
  | part :: rest =>
      match fieldNumber? part with
      | some text => do
          write [⟨.literal text, location⟩, ⟨.mark '.' false, location⟩]
          writeCountedFields location rest
      | none => refuse "unsuffixed integer"

def isPointedNumber : List Token → Bool
  | [] => false
  | token :: _ =>
      match token.lexeme with
      | .literal text => text.toList.head?.any Char.isDigit && text.toList.contains '.'
      | _ => false

/-- The counted fields of a number with points, if one comes. It says whether a field has still to
follow. -/
def countedFields? : Reader Bool := do
  if ← sees isPointedNumber then
    let token ← take "number" isPointedNumber
    writeCountedFields token.location (countedParts token.lexeme.text.toList)
  else
    return true

/-- What follows the point behind an expression: a field, a method call or `await`. The answer makes the
whole expression of its tokens. -/
def afterPoint (grammar : Grammar) (base : Expression) : Reader (List Token → Expression) := do
  if !(← countedFields?) then
    return fun tokens => .field tokens base none
  else if ← keyword? "await" then
    return .other
  else
    let member ← fieldName
    if member.isSome && (← seesMark "::") then
      let _ ← angledArguments grammar
      let _ ← arguments grammar
      return .other
    else if member.isSome && (← sees (Ahead.isOpening .parenthesis)) then
      let _ ← arguments grammar
      return .other
    else
      return fun tokens => .field tokens base member

/-- What is applied to an expression, if something is. -/
def trailer? (grammar : Grammar) (base : Expression) :
    Reader (Option (List Token → Expression)) := do
  if ← sees (Ahead.isOpening .parenthesis) then
    let values ← arguments grammar
    return some fun tokens => .call tokens base values
  else if ← sees (Ahead.isOpening .bracket) then
    within .bracket do
      let _ ← grammar.expression true
    return some .other
  else if base.isRange then
    return none
  else if ← sees fun tokens => Ahead.isMark "." tokens && !Ahead.isMark ".." tokens then
    mark "."
    return some (← afterPoint grammar base)
  else if ← mark? "?" then
    return some .other
  else
    return none

/-- An expression with all that is applied to it, at most as often as the budget allows. -/
def trailersWithin (grammar : Grammar) : Nat → Expression → Reader Expression
  | 0, base => return base
  | budget + 1, base => do
      let (tokens, applied) ← capture (trailer? grammar base)
      match applied with
      | some whole => trailersWithin grammar budget (whole (base.tokens ++ tokens))
      | none => return base

def trailers (grammar : Grammar) (base : Expression) : Reader Expression := do
  trailersWithin grammar (← budget) base

/-- A field of a struct literal; the value of a named field can be left out. -/
def fieldValue (grammar : Grammar) : Reader Unit := do
  let _ ← outerAttributes grammar
  let member ← fieldName
  if member.isNone || (← seesMark ":") then
    mark ":"
    let _ ← grammar.expression true

/-- The fields of a struct literal, at most as many as the budget allows. A base value ends them. -/
def fieldValues (grammar : Grammar) : Nat → Reader Unit
  | 0 => refuse "token"
  | budget + 1 => do
      if !(← seesEnd) then
        if ← mark? ".." then
          if !(← seesEnd) then
            let _ ← grammar.expression true
        else
          fieldValue grammar
          if !(← seesEnd) then
            mark ","
            fieldValues grammar budget

/-- An expression that starts with a path: the path, a macro call or a struct literal. -/
def pathExpression (grammar : Grammar) (allowsStruct : Bool) : Reader Expression := do
  let found ← path grammar true
  if !found.head.isQualified && found.isPlain && (← sees startsMacroSign) then
    mark "!"
    return .macroCall [] (← macroArguments)
  else if allowsStruct && (← sees (Ahead.isOpening .brace)) then
    within .brace do
      fieldValues grammar (← budget)
    return .other []
  else
    return .path [] found.head (found.arguments.types.filterMap id) found.arguments.tokens

def parenthesized (grammar : Grammar) : Reader Expression := do
  let _ ← within .parenthesis (commaList (grammar.expression true))
  return .other []

def arrayExpression (grammar : Grammar) : Reader Expression :=
  within .bracket do
    if ← seesEnd then
      return .array [] []
    else
      let first ← grammar.expression true
      if ← mark? ";" then
        let _ ← grammar.expression true
        return .other []
      else if ← seesEnd then
        return .array [] [first]
      else if ← mark? "," then
        let others ← commaList (grammar.expression true)
        return .array [] (first :: others)
      else
        refuse "`,` or `;`"

/-- A parameter of a closure, which can have attributes and a type. -/
def closureParameter (grammar : Grammar) : Reader Pattern := do
  let (tokens, form) ← capture do
    let _ ← outerAttributes grammar
    let inner ← grammar.pattern
    if ← mark? ":" then
      let _ ← grammar.type true
      return Pattern.typed [] inner
    else
      return inner
  return form.withTokens tokens

/-- A closure; one that states its result type has a block for its body. -/
def closure (grammar : Grammar) (allowsStruct : Bool) : Reader Expression := do
  let _ ← boundParameters grammar
  let _ ← keyword? "const"
  let _ ← keyword? "static"
  let _ ← keyword? "async"
  let _ ← keyword? "move"
  mark "|"
  let params ← separated (Ahead.isMark "|") "," (closureParameter grammar)
  mark "|"
  if ← seesMark "->" then
    mark "->"
    let _ ← grammar.type true
    let (tokens, statements) ← capture (plainBlock grammar)
    return .closure [] params ((blockForm statements).withTokens tokens)
  else
    return .closure [] params (← grammar.expression allowsStruct)

/-- A condition with `let`. -/
def letExpression (grammar : Grammar) (allowsStruct : Bool) : Reader Expression := do
  keyword "let"
  let _ ← alternatives grammar
  mark "="
  let left ← grammar.operand allowsStruct
  let _ ← grammar.operation allowsStruct .compare left
  return .other []

/-- A conditional with as many branches as follow, at most as many as the budget allows. -/
def conditionalWithin (grammar : Grammar) : Nat → Reader Unit
  | 0 => refuse "token"
  | budget + 1 => do
      keyword "if"
      let _ ← grammar.expression false
      let _ ← plainBlock grammar
      if ← keyword? "else" then
        if ← seesWord "if" then
          conditionalWithin grammar budget
        else
          let _ ← plainBlock grammar

def conditional (grammar : Grammar) : Reader Expression := do
  conditionalWithin grammar (← budget)
  return .statementLike []

/-- A loop behind its label. -/
def loopExpression (grammar : Grammar) : Reader Expression := do
  if ← keyword? "while" then
    let _ ← grammar.expression false
  else if ← keyword? "for" then
    let _ ← alternatives grammar
    keyword "in"
    let _ ← grammar.expression false
  else
    keyword "loop"
  let _ ← bodyBlock grammar
  return .statementLike []

/-- A label with the loop or block that it names. -/
def labelled (grammar : Grammar) : Reader Expression := do
  lifetime
  mark ":"
  if ← sees (Ahead.isOpening .brace) then
    let _ ← bodyBlock grammar
    return .block []
  else
    loopExpression grammar

def isClosureLoop (tokens : List Token) : Bool :=
  Ahead.second (Ahead.isMark "<") tokens &&
    (Ahead.third Ahead.isLifetime tokens || Ahead.third (Ahead.isMark ">") tokens)

/-- Whether a closure comes. -/
def startsClosure (tokens : List Token) : Bool :=
  Ahead.isMark "|" tokens || Ahead.isWord "move" tokens ||
    (Ahead.isWord "for" tokens && isClosureLoop tokens) ||
    (Ahead.isWord "const" tokens && !Ahead.second (Ahead.isOpening .brace) tokens) ||
    Ahead.isWord "static" tokens ||
    (Ahead.isWord "async" tokens &&
      (Ahead.second (Ahead.isMark "|") tokens || Ahead.second (Ahead.isWord "move") tokens))

def startsAsyncBlock (tokens : List Token) : Bool :=
  Ahead.isWord "async" tokens &&
    (Ahead.second (Ahead.isOpening .brace) tokens ||
      (Ahead.second (Ahead.isWord "move") tokens &&
        Ahead.third (Ahead.isOpening .brace) tokens))

def startsTryBlock (tokens : List Token) : Bool :=
  Ahead.isWord "try" tokens && Ahead.second (Ahead.isOpening .brace) tokens

def startsPathExpression (tokens : List Token) : Bool :=
  startsPath tokens ||
    (Ahead.isWord "try" tokens &&
      (Ahead.second (Ahead.isMark "!") tokens || Ahead.second (Ahead.isMark "::") tokens))

/-- Whether the sign comes and is not the start of one of the longer ones. -/
def isMarkBut (sign : String) (longer : List String) (tokens : List Token) : Bool :=
  Ahead.isMark sign tokens && !longer.any fun operator => Ahead.isMark operator tokens

/-- Whether an expression can come. -/
def startsExpression (tokens : List Token) : Bool :=
  (Ahead.isAnyWord tokens && !Ahead.isWord "as" tokens) || Ahead.isAnyOpening tokens ||
    Ahead.isLiteral tokens || isMarkBut "!" ["!="] tokens || isMarkBut "-" ["-=", "->"] tokens ||
    isMarkBut "*" ["*="] tokens || isMarkBut "|" ["|="] tokens || isMarkBut "&" ["&="] tokens ||
    Ahead.isMark ".." tokens || isMarkBut "<" ["<=", "<<="] tokens || Ahead.isMark "::" tokens ||
    Ahead.isLifetime tokens || Ahead.isMark "#" tokens

/-- `break` with its label and value. -/
def breakExpression (grammar : Grammar) (allowsStruct : Bool) : Reader Expression := do
  keyword "break"
  if ← sees fun tokens => Ahead.isLifetime tokens && Ahead.second (Ahead.isMark ":") tokens then
    refuse "parentheses"
  else
    lifetime?
    if ← sees fun tokens =>
        startsExpression tokens && (allowsStruct || !Ahead.isOpening .brace tokens) then
      let _ ← grammar.expression allowsStruct
    return .other []

/-- A keyword with the value that it hands out, if there is one. -/
def handingOut (grammar : Grammar) (text : String) (allowsStruct : Bool) : Reader Expression := do
  keyword text
  if ← sees startsExpression then
    let _ ← grammar.expression allowsStruct
  return .other []

/-- The arms of a `match`, at most as many as the budget allows. An arm needs a comma behind it unless its
body is complete by itself or it is the last. -/
def matchArms (grammar : Grammar) : Nat → Reader Unit
  | 0 => refuse "token"
  | budget + 1 => do
      if !(← seesEnd) then
        let _ ← outerAttributes grammar
        let _ ← alternatives grammar
        if ← keyword? "if" then
          let _ ← grammar.expression true
        mark "=>"
        let body ← grammar.ending
        if body.isComplete || (← seesEnd) then
          let _ ← mark? ","
        else
          mark ","
        matchArms grammar budget

def matchExpression (grammar : Grammar) : Reader Expression := do
  keyword "match"
  let _ ← grammar.expression false
  within .brace do
    let _ ← innerAttributes grammar
    matchArms grammar (← budget)
  return .statementLike []

def startsLoop (tokens : List Token) : Bool :=
  Ahead.isWord "while" tokens || Ahead.isWord "loop" tokens ||
    (Ahead.isWord "for" tokens && !isClosureLoop tokens)

/-- A word with the block that it governs. -/
def governedBlock (grammar : Grammar) (text : String) : Reader Expression := do
  keyword text
  let _ ← bodyBlock grammar
  return .statementLike []

/-- An expression that is complete by itself, if one comes. -/
def complete? (grammar : Grammar) : Reader (Option Expression) := do
  if ← seesWord "if" then
    return some (← conditional grammar)
  else if ← sees startsLoop then
    return some (← loopExpression grammar)
  else if ← seesWord "match" then
    return some (← matchExpression grammar)
  else if ← sees startsTryBlock then
    return some (← governedBlock grammar "try")
  else if ← seesWord "unsafe" then
    return some (← governedBlock grammar "unsafe")
  else if ← sees fun tokens =>
      Ahead.isWord "const" tokens && Ahead.second (Ahead.isOpening .brace) tokens then
    return some (← governedBlock grammar "const")
  else if ← sees (Ahead.isOpening .brace) then
    return some (blockForm (← bodyBlock grammar))
  else if ← sees Ahead.isLifetime then
    return some (← labelled grammar)
  else
    return none

/-- An expression in a statement or as the body of an arm: what is complete by itself ends it, unless
something is applied to it. -/
def ending (grammar : Grammar) : Reader Expression := do
  let (tokens, form) ← capture do
    let _ ← outerAttributes grammar
    match ← complete? grammar with
    | some found => return found
    | none => grammar.operand true
  let found := form.withTokens tokens
  if !found.isComplete then
    grammar.operation true .lowest found
  else if ← sees fun tokens =>
      (Ahead.isMark "." tokens && !Ahead.isMark ".." tokens) || Ahead.isMark "?" tokens then
    let applied ← trailers grammar found
    grammar.operation true .lowest applied
  else
    return found

def asyncBlock (grammar : Grammar) : Reader Expression := do
  keyword "async"
  let _ ← keyword? "move"
  let _ ← plainBlock grammar
  return .other []

/-- A call of a facility of the compiler. -/
def builtinCall : Reader Expression := do
  verbatim do
    keyword "builtin"
    mark "#"
    let _ ← anyWord
    if ← sees (Ahead.isOpening .parenthesis) then
      let _ ← brackets
    else
      refuse "parentheses"
  return .other []

/-- An expression to which others can be applied, whose tokens are not set. -/
def atomForm (grammar : Grammar) (allowsStruct : Bool) : Reader Expression := do
  if ← sees Ahead.isLiteral then
    let _ ← literal
    return .other []
  else if ← sees startsAsyncBlock then
    asyncBlock grammar
  else if ← sees startsClosure then
    closure grammar allowsStruct
  else if ← sees fun tokens =>
      Ahead.isWord "builtin" tokens && Ahead.second (Ahead.isMark "#") tokens then
    builtinCall
  else if ← sees fun tokens => startsPathExpression tokens && !startsTryBlock tokens then
    pathExpression grammar allowsStruct
  else if ← sees (Ahead.isOpening .parenthesis) then
    parenthesized grammar
  else if ← sees (Ahead.isOpening .bracket) then
    arrayExpression grammar
  else if ← seesWord "break" then
    breakExpression grammar allowsStruct
  else if ← keyword? "continue" then
    lifetime?
    return .other []
  else if ← seesWord "return" then
    handingOut grammar "return" allowsStruct
  else if ← seesWord "yield" then
    handingOut grammar "yield" allowsStruct
  else if ← seesWord "become" then
    verbatim do
      keyword "become"
      let _ ← grammar.expression true
    return .other []
  else if ← seesWord "let" then
    letExpression grammar allowsStruct
  else if ← seesMark ".." then
    rangeOperation grammar allowsStruct
    return .range []
  else if ← keyword? "_" then
    return .other []
  else
    match ← complete? grammar with
    | some found => return found
    | none => refuse "an expression"

/-- An expression with all that is applied to it. -/
def applied (grammar : Grammar) (allowsStruct : Bool) : Reader Expression := do
  let (tokens, form) ← capture (atomForm grammar allowsStruct)
  trailers grammar (form.withTokens tokens)

/-- A reference, which can be a raw one. -/
def borrowed (grammar : Grammar) (allowsStruct : Bool) : Reader Expression := do
  mark "&"
  let isRaw ← sees fun tokens =>
    Ahead.isWord "raw" tokens &&
      (Ahead.second (Ahead.isWord "mut") tokens || Ahead.second (Ahead.isWord "const") tokens)
  if isRaw then
    keyword "raw"
  let isMutable ← keyword? "mut"
  if isRaw && !isMutable then
    keyword "const"
  let _ ← grammar.operand allowsStruct
  return .other []

def signs : List String := ["*", "!", "-"]

/-- An operand with its attributes and the signs in front of it, whose tokens are not set. -/
def operandForm (grammar : Grammar) (allowsStruct : Bool) : Reader Expression := do
  let _ ← outerAttributes grammar
  if ← seesMark "&" then
    borrowed grammar allowsStruct
  else
    let rest := (← get).rest
    match signs.find? fun sign => Ahead.isMark sign rest with
    | some sign =>
        mark sign
        let _ ← grammar.operand allowsStruct
        return .other []
    | none => applied grammar allowsStruct

def operand (grammar : Grammar) (allowsStruct : Bool) : Reader Expression := do
  let (tokens, form) ← capture (operandForm grammar allowsStruct)
  return form.withTokens tokens

end ObjectMapping.Source
