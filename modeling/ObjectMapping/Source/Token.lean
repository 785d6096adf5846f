/-
This file defines the tokens of a source text and their text. Brackets are tokens like all others;
a scanned list has them in matching pairs.
-/

import ObjectMapping.Location

namespace ObjectMapping.Source

inductive Delimiter
  | parenthesis
  | bracket
  | brace
  deriving Repr, DecidableEq

namespace Delimiter

def openingChar : Delimiter → Char
  | .parenthesis => '('
  | .bracket => '['
  | .brace => '\x7b'

def closingChar : Delimiter → Char
  | .parenthesis => ')'
  | .bracket => ']'
  | .brace => '\x7d'

def all : List Delimiter := [.parenthesis, .bracket, .brace]

def ofOpening? (char : Char) : Option Delimiter := all.find? (·.openingChar == char)

def ofClosing? (char : Char) : Option Delimiter := all.find? (·.closingChar == char)

end Delimiter

inductive Lexeme
  /-- An identifier or keyword as it is spelt, with the `r#` of a raw identifier. -/
  | word (text : String)
  /-- A lifetime with its apostrophe. -/
  | lifetime (text : String)
  /-- A number, character or string as it is spelt. -/
  | literal (text : String)
  /-- One character of an operator; a joint one and the next token are written without a space. -/
  | mark (char : Char) (joint : Bool)
  | opening (delimiter : Delimiter)
  | closing (delimiter : Delimiter)
  deriving Repr, DecidableEq

/-- A lexeme and the place where it starts. -/
structure Token where
  lexeme : Lexeme
  location : Location
  deriving Repr, DecidableEq

namespace Lexeme

def text : Lexeme → String
  | .word text => text
  | .lifetime text => text
  | .literal text => text
  | .mark char _ => char.toString
  | .opening delimiter => delimiter.openingChar.toString
  | .closing delimiter => delimiter.closingChar.toString

/-- Whether a space stands between two neighbours. Braces keep a space on their inner side, the other
brackets do not. -/
def isSpaced (left right : Lexeme) : Bool :=
  match left, right with
  | _, .closing .brace => true
  | _, .closing _ => false
  | .mark _ joint, _ => !joint
  | .opening .brace, _ => true
  | .opening _, _ => false
  | _, _ => true

end Lexeme

/-- The text of a list of lexemes. -/
def lexemesText : List Lexeme → String
  | [] => ""
  | [last] => last.text
  | left :: right :: rest =>
      (if left.isSpaced right then left.text ++ " " else left.text) ++ lexemesText (right :: rest)

def tokensText (tokens : List Token) : String := lexemesText (tokens.map (·.lexeme))

/-- The place of a phrase: where its first token starts. -/
def tokensLocation (tokens : List Token) : Location :=
  match tokens with
  | [] => Location.startOfText
  | first :: _ => first.location

end ObjectMapping.Source
