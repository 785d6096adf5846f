/-
This file reads visibilities and the heads of functions.
-/

import ObjectMapping.Source.Grammar.Pattern
import ObjectMapping.Source.Grammar.Type

namespace ObjectMapping.Source

open Reader

inductive Visibility
  | inherited
  | everywhere
  /-- Visible in a part of the program. -/
  | restricted
  deriving DecidableEq

/-- Whether a single word that restricts a visibility fills the brackets. -/
def isRestriction (tokens : List Token) : Bool :=
  ["crate", "self", "super"].any (fun text => Ahead.isWord text tokens) && Ahead.second Ahead.isEnd tokens

def visibility : Reader Visibility := do
  if ← keyword? "pub" then
    let rest := (← get).rest
    let inside := rest.drop 1
    if !Ahead.isOpening .parenthesis rest then
      return .everywhere
    else if isRestriction inside then
      within .parenthesis do
        let _ ← anyWord
      return .restricted
    else if Ahead.isWord "in" inside then
      within .parenthesis do
        keyword "in"
        let _ ← plainPath
      return .restricted
    else
      return .everywhere
  else
    return .inherited

/-- The receiver of a method without its attributes: whether it is a reference, and whether that is a
mutable one. -/
def receiver (grammar : Grammar) : Reader (Bool × Bool) := do
  let isReference ← mark? "&"
  if isReference then
    lifetime?
  let isMutable ← keyword? "mut"
  keyword "self"
  if !isReference then
    if ← mark? ":" then
      let _ ← grammar.type true
  return (isReference, isMutable)

/-- An argument of a function, or dots for any further ones. An argument of an old form, which is a type
with arguments, gets a blank pattern. -/
def functionInput? (grammar : Grammar) : Reader (Option FunctionInput) := do
  if ← mark? "..." then
    return none
  match ← attempt (receiver grammar) with
  | some (isReference, isMutable) => return some (.receiver [] isReference isMutable)
  | none =>
      if ← sees fun tokens =>
          Ahead.isName tokens && Ahead.second (Ahead.isMark "<") tokens then
        let location := tokensLocation (← get).rest
        let blank : List Token := [⟨.word "_", location⟩]
        write (blank ++ glued ":" location)
        let type ← grammar.type true
        return some (.typed [] (.wild blank) type)
      else
        let found ← grammar.pattern
        mark ":"
        if ← mark? "..." then
          return none
        else
          let type ← grammar.type true
          return some (.typed [] found type)

def FunctionInput.isReceiver : FunctionInput → Bool
  | .receiver _ _ _ => true
  | .typed _ _ _ => false

/-- The arguments of a function, at most as many as the budget allows; only the first can be a
receiver. -/
def functionInputs (grammar : Grammar) (isFirst : Bool) : Nat → Reader (List FunctionInput)
  | 0 => refuse "token"
  | budget + 1 => do
      if ← seesEnd then
        return []
      else
        let (tokens, found) ← capture do
          let _ ← outerAttributes grammar
          functionInput? grammar
        match found with
        | none =>
            if !(← seesEnd) then
              mark ","
            return []
        | some input =>
            if input.isReceiver && !isFirst then
              refuse "argument"
            else
              let whole : FunctionInput :=
                match input with
                | .receiver _ isReference isMutable => .receiver tokens isReference isMutable
                | .typed _ found type => .typed tokens found type
              if ← seesEnd then
                return [whole]
              else
                mark ","
                let others ← functionInputs grammar false budget
                return whole :: others

/-- The words in front of `fn`. -/
def functionQualifiers (allowsSafe : Bool) : Reader Bool := do
  let _ ← keyword? "const"
  let _ ← keyword? "async"
  let isSafe ←
    if ← keyword? "unsafe" then pure false
    else if allowsSafe then keyword? "safe"
    else pure false
  let _ ← interface?
  return isSafe

/-- Whether the head of a function comes. -/
def startsFunction (allowsSafe : Bool) (tokens : List Token) : Bool :=
  let past (text : String) (rest : List Token) := if Ahead.isWord text rest then Ahead.skip rest else rest
  let qualified := past "async" (past "const" tokens)
  let guarded :=
    if Ahead.isWord "unsafe" qualified then Ahead.skip qualified
    else if allowsSafe then past "safe" qualified
    else qualified
  let bound :=
    if Ahead.isWord "extern" guarded then
      let following := Ahead.skip guarded
      if Ahead.isTextLiteral following then Ahead.skip following else following
    else
      guarded
  Ahead.isWord "fn" bound

/-- The head of a function; it says as well whether the function is marked as safe. -/
def markedSignature (grammar : Grammar) (allowsSafe : Bool) : Reader (Bool × Signature) := do
  let (tokens, isSafe, found) ← capture do
    let (qualifiers, isSafe) ← capture (functionQualifiers allowsSafe)
    keyword "fn"
    let token ← pass "identifier" Ahead.isName
    let (genericTokens, isGeneric) ← capture (generics grammar)
    let (inputTokens, inputs) ← capture (within .parenthesis do
      functionInputs grammar true (← budget))
    let (resultTokens, result) ← capture (result? grammar true)
    let (bounds, _) ← capture (whereClause grammar)
    let found : Signature :=
      { tokens := []
        qualifiers := qualifiers
        name := token.lexeme.text
        nameLocation := token.location
        generics := genericTokens
        isGeneric := isGeneric
        inputs := inputs
        inputTokens := (inputTokens.drop 1).dropLast
        result := result
        resultTokens := resultTokens
        bounds := bounds }
    return (isSafe, found)
  return (isSafe, { found with tokens := tokens })

def signature (grammar : Grammar) : Reader Signature := return (← markedSignature grammar false).2

end ObjectMapping.Source
