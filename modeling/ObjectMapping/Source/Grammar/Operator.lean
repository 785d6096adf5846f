/-
This file reads binary operators, casts and ranges. Comparisons do not chain, and a range is never the
left operand of what follows.
-/

import ObjectMapping.Source.Grammar.Pattern

namespace ObjectMapping.Source

open Reader

/-- The binary operators; one that starts like a longer one comes after it. -/
def binaryOperators : List (String × Precedence) :=
  [("+=", .assign), ("-=", .assign), ("*=", .assign), ("/=", .assign), ("%=", .assign),
    ("^=", .assign), ("&=", .assign), ("|=", .assign), ("<<=", .assign), (">>=", .assign),
    ("&&", .and), ("||", .or), ("<<", .shift), (">>", .shift), ("==", .compare), ("<=", .compare),
    ("!=", .compare), (">=", .compare), ("+", .sum), ("-", .sum), ("*", .product), ("/", .product),
    ("%", .product), ("^", .bitXor), ("&", .bitAnd), ("|", .bitOr), ("<", .compare),
    (">", .compare)]

def binaryOperator? (tokens : List Token) : Option (String × Precedence) :=
  binaryOperators.find? fun (operator, _) => Ahead.isMark operator tokens

def isAssignment (tokens : List Token) : Bool :=
  Ahead.isMark "=" tokens && !Ahead.isMark "=>" tokens

/-- How tightly what comes next binds. -/
def nextPrecedence (tokens : List Token) : Precedence :=
  match binaryOperator? tokens with
  | some (_, precedence) => precedence
  | none =>
      if isAssignment tokens then .assign
      else if Ahead.isMark ".." tokens then .range
      else if Ahead.isWord "as" tokens then .cast
      else .lowest

/-- Extends a right operand by what binds more tightly than its operator, at most as often as the budget
allows; assignments group to the right. -/
def extendOperand (grammar : Grammar) (allowsStruct : Bool) (precedence : Precedence) :
    Nat → Expression → Reader Expression
  | 0, operand => return operand
  | budget + 1, operand => do
      let rest := (← get).rest
      let next := nextPrecedence rest
      if precedence.rank < next.rank || (next == precedence && precedence == .assign) then
        let extended ← grammar.operation allowsStruct next operand
        if (← get).rest.length == rest.length then
          return extended
        else
          extendOperand grammar allowsStruct precedence budget extended
      else
        return operand

def rightOperand (grammar : Grammar) (allowsStruct : Bool) (precedence : Precedence) :
    Reader Unit := do
  let first ← grammar.operand allowsStruct
  let _ ← extendOperand grammar allowsStruct precedence (← budget) first

/-- The signs that cannot start an upper end of a range. -/
def rangeStops : List String :=
  [",", ";", "?", "=>", "=", "+", "/", "%", "^", ">", "<=", "!=", "-=", "*=", "&=", "|=", "<<="]

/-- Whether a half-open range has no upper end. -/
def lacksUpperEnd (allowsStruct : Bool) (tokens : List Token) : Bool :=
  Ahead.isEnd tokens || rangeStops.any (fun sign => Ahead.isMark sign tokens) ||
    (Ahead.isMark "." tokens && !Ahead.isMark ".." tokens) ||
    (!allowsStruct && Ahead.isOpening .brace tokens) || Ahead.isWord "as" tokens

/-- The sign of a range with the upper end behind it. -/
def rangeOperation (grammar : Grammar) (allowsStruct : Bool) : Reader Unit := do
  if ← mark? "..=" then
    rightOperand grammar allowsStruct .range
  else if ← seesMark "..." then
    refuse "range"
  else
    mark ".."
    if !(← sees (lacksUpperEnd allowsStruct)) then
      rightOperand grammar allowsStruct .range

/-- Whether what follows would be applied to a cast, which needs parentheses. -/
def startsTrailer (tokens : List Token) : Bool :=
  (Ahead.isMark "." tokens && !Ahead.isMark ".." tokens) || Ahead.isMark "?" tokens ||
    Ahead.isOpening .bracket tokens || Ahead.isOpening .parenthesis tokens

def castOperation (grammar : Grammar) : Reader Unit := do
  keyword "as"
  let _ ← grammar.type false
  if ← sees startsTrailer then
    refuse "parentheses"

/-- What follows a left operand and binds at least as tightly as the precedence says, at most as many
operators as the budget allows. -/
def operationWithin (grammar : Grammar) (allowsStruct : Bool) (base : Precedence) :
    Nat → Expression → Reader Expression
  | 0, left => return left
  | budget + 1, left => do
      let rest := (← get).rest
      if left.isRange then
        return left
      match binaryOperator? rest with
      | some (operator, precedence) =>
          if precedence.rank < base.rank then
            return left
          else if precedence == .compare && left.isComparison then
            refuse "parentheses"
          else
            let (tokens, _) ← capture do
              mark operator
              rightOperand grammar allowsStruct precedence
            let whole := left.tokens ++ tokens
            operationWithin grammar allowsStruct base budget
              (if precedence == .compare then .comparison whole else .other whole)
      | none =>
          if base.rank ≤ Precedence.assign.rank && isAssignment rest then
            let (tokens, _) ← capture do
              mark "="
              rightOperand grammar allowsStruct .assign
            operationWithin grammar allowsStruct base budget (.other (left.tokens ++ tokens))
          else if base.rank ≤ Precedence.range.rank && Ahead.isMark ".." rest then
            let (tokens, _) ← capture (rangeOperation grammar allowsStruct)
            operationWithin grammar allowsStruct base budget (.range (left.tokens ++ tokens))
          else if base.rank ≤ Precedence.cast.rank && Ahead.isWord "as" rest then
            let (tokens, _) ← capture (castOperation grammar)
            operationWithin grammar allowsStruct base budget (.other (left.tokens ++ tokens))
          else
            return left

def operation (grammar : Grammar) (allowsStruct : Bool) (base : Precedence) (left : Expression) :
    Reader Expression := do
  operationWithin grammar allowsStruct base (← budget) left

/-- An operand with all operations that follow. -/
def expression (grammar : Grammar) (allowsStruct : Bool) : Reader Expression := do
  let left ← grammar.operand allowsStruct
  operation grammar allowsStruct .lowest left

end ObjectMapping.Source
