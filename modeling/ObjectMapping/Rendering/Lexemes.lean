/-
This file builds the lexemes of generated code.
-/

import ObjectMapping.Source.Token
import ObjectMapping.Text.CodeRange

namespace ObjectMapping.Rendering

open Source

/-- The words of a text, which stand between spaces. -/
def words (text : String) : List Lexeme :=
  (Text.splitOnChars (· == ' ') text.toList).map fun word => .word (String.ofList word)

/-- An operator in one piece. -/
def sign (operator : String) : List Lexeme :=
  operator.toList.zipIdx.map fun (char, index) =>
    .mark char (index + 1 < operator.toList.length)

def enclose (delimiter : Delimiter) (inner : List Lexeme) : List Lexeme :=
  [.opening delimiter] ++ inner ++ [.closing delimiter]

def parentheses (inner : List Lexeme) : List Lexeme := enclose .parenthesis inner

def brackets (inner : List Lexeme) : List Lexeme := enclose .bracket inner

def braces (inner : List Lexeme) : List Lexeme := enclose .brace inner

def angles (inner : List Lexeme) : List Lexeme := sign "<" ++ inner ++ sign ">"

/-- A path through modules from the root. -/
def rootedPath (segments : List String) : List Lexeme :=
  segments.flatMap fun segment => sign "::" ++ words segment

/-- The pieces with commas between them. -/
def commaSeparated : List (List Lexeme) → List Lexeme
  | [] => []
  | [last] => last
  | piece :: rest => piece ++ sign "," ++ commaSeparated rest

/-- The pieces with a comma behind each. -/
def commaEnded (pieces : List (List Lexeme)) : List Lexeme :=
  pieces.flatMap fun piece => piece ++ sign ","

/-- An attribute that turns a check of the compiler off. -/
def allow (check : String) : List Lexeme :=
  sign "#" ++ brackets (words "allow" ++ parentheses (words check))

/-- A method call behind a value. -/
def method (name : String) (arguments : List Lexeme) : List Lexeme :=
  sign "." ++ words name ++ parentheses arguments

/-- A name of an `Option` in the standard library. -/
def optionPath (last : List String) : List Lexeme := rootedPath (["core", "option", "Option"] ++ last)

def lexemes (tokens : List Token) : List Lexeme := tokens.map (·.lexeme)

end ObjectMapping.Rendering
