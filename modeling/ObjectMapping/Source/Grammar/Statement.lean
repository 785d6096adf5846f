/-
This file reads statements.
-/

import ObjectMapping.Source.Grammar.Expression

namespace ObjectMapping.Source

open Reader

/-- What a statement is by its first tokens. -/
inductive StatementStart
  | item
  /-- A macro call with braces, to which nothing is applied. -/
  | bracedMacro
  | binding
  | expression
  deriving DecidableEq

/-- Whether an item comes where a statement can stand. -/
def startsItem (tokens : List Token) : Bool :=
  let word (text : String) := Ahead.isWord text tokens
  let second := Ahead.skip tokens
  let third := Ahead.skip second
  ["pub", "extern", "use", "fn", "mod", "type", "struct", "enum", "trait", "impl", "macro"].any word ||
    (word "crate" && !Ahead.isMark "::" second) ||
    (word "static" &&
      (Ahead.isWord "mut" second ||
        (Ahead.isName second &&
          !(Ahead.isWord "async" second &&
            (Ahead.isWord "move" third || Ahead.isMark "|" third))))) ||
    (word "const" &&
      !(Ahead.isOpening .brace second || Ahead.isWord "static" second ||
        (Ahead.isWord "async" second &&
          !(["unsafe", "extern", "fn"].any fun text => Ahead.isWord text third)) ||
        Ahead.isWord "move" second || Ahead.isMark "|" second)) ||
    (word "unsafe" && !Ahead.isOpening .brace second) ||
    (word "async" && ["unsafe", "extern", "fn"].any fun text => Ahead.isWord text second) ||
    (word "union" && Ahead.isName second) ||
    (word "auto" && Ahead.isWord "trait" second) ||
    (word "default" && (Ahead.isWord "unsafe" second || Ahead.isWord "impl" second))

/-- What a statement is, from what stands behind its attributes and, if they are followed by a path,
behind that path. -/
def classifyStatement (tokens : List Token) (afterPath : Option (List Token)) : StatementStart :=
  let isMacro := afterPath.any (Ahead.isMark "!")
  let second := (afterPath.map Ahead.skip).getD []
  let third := Ahead.skip second
  if isMacro && Ahead.isOpening .brace second &&
      !((Ahead.isMark "." third && !Ahead.isMark ".." third) || Ahead.isMark "?" third) then
    .bracedMacro
  else if Ahead.isWord "let" tokens then .binding
  else if startsItem tokens || (isMacro && (Ahead.isName second || Ahead.isWord "try" second)) then
    .item
  else .expression

def statementStart (grammar : Grammar) : Reader StatementStart := do
  let start ← get
  let _ ← outerAttributes grammar
  let rest := (← get).rest
  let head ← attempt plainPath
  let afterPath := (← get).rest
  set start
  return classifyStatement rest (head.map fun _ => afterPath)

def bracedMacro (grammar : Grammar) : Reader Statement := do
  let _ ← outerAttributes grammar
  let _ ← plainPath
  mark "!"
  let _ ← macroArguments
  let _ ← mark? ";"
  return .other []

/-- A `let` statement. Its value can be followed by what is done where the pattern does not match, unless
the value ends with a brace. -/
def binding (grammar : Grammar) : Reader Statement := do
  let _ ← outerAttributes grammar
  keyword "let"
  let _ ← grammar.pattern
  if ← mark? ":" then
    let _ ← grammar.type true
  if ← mark? "=" then
    let value ← grammar.expression true
    let endsWithBrace := value.tokens.getLast?.any fun token => token.lexeme == .closing .brace
    if !endsWithBrace && (← seesWord "else") then
      keyword "else"
      let _ ← plainBlock grammar
  mark ";"
  return .other []

/-- An expression as a statement; a macro call that is one is kept apart. -/
def expressionStatement (grammar : Grammar) : Reader Statement := do
  let value ← grammar.ending
  let hasSemicolon ← mark? ";"
  match value with
  | .macroCall _ isBraced =>
      if hasSemicolon || isBraced then
        return .other []
      else
        return .expression [] value false
  | _ => return .expression [] value hasSemicolon

def statementForm (grammar : Grammar) : Reader Statement := do
  match ← statementStart grammar with
  | .item =>
      let _ ← grammar.item
      return .other []
  | .bracedMacro => bracedMacro grammar
  | .binding => binding grammar
  | .expression => expressionStatement grammar

def statement (grammar : Grammar) : Reader Statement := do
  if ← seesMark ";" then
    let (tokens, _) ← capture (mark ";")
    return .other tokens
  else
    let (tokens, form) ← capture (statementForm grammar)
    match form with
    | .expression _ value hasSemicolon => return .expression tokens value hasSemicolon
    | .other _ => return .other tokens

namespace Statement

/-- Whether a further statement can follow. -/
def isEnded : Statement → Bool
  | .expression _ value hasSemicolon => hasSemicolon || value.isComplete
  | .other _ => true

end Statement

/-- The statements of a block, at most as many as the budget allows. -/
def statementsWithin (grammar : Grammar) : Nat → Reader (List Statement)
  | 0 => refuse "token"
  | budget + 1 => do
      if ← seesEnd then
        return []
      else
        let first ← statement grammar
        if first.isEnded || (← seesEnd) then
          let others ← statementsWithin grammar budget
          return first :: others
        else
          throw .unended

def statements (grammar : Grammar) : Reader (List Statement) := do
  statementsWithin grammar (← budget)

end ObjectMapping.Source
