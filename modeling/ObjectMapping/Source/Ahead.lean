/-
This file holds the tests by which readers of phrases look ahead in a list of tokens. A list ends for
a reader where it is empty and where a bracket closes.
-/

import ObjectMapping.Source.Token

namespace ObjectMapping.Source

/-- The words that are no identifiers. -/
def keywords : List String :=
  ["_", "abstract", "as", "async", "await", "become", "box", "break", "const", "continue", "crate",
    "do", "dyn", "else", "enum", "extern", "false", "final", "fn", "for", "if", "impl", "in", "let",
    "loop", "macro", "match", "mod", "move", "mut", "override", "priv", "pub", "ref", "return", "Self",
    "self", "static", "struct", "super", "trait", "true", "try", "type", "typeof", "unsafe",
    "unsized", "use", "virtual", "where", "while", "yield"]

namespace Ahead

def isEnd : List Token → Bool
  | [] => true
  | token :: _ =>
      match token.lexeme with
      | .closing _ => true
      | _ => false

/-- What follows the bracket that closes `depth` further ones. -/
def afterClosing (depth : Nat) : List Token → List Token
  | [] => []
  | token :: rest =>
      match token.lexeme, depth with
      | .opening _, depth => afterClosing (depth + 1) rest
      | .closing _, 0 => rest
      | .closing _, outer + 1 => afterClosing outer rest
      | _, depth => afterClosing depth rest

/-- What follows the first token, or the first pair of brackets with what it holds. Nothing follows
where the list ends. -/
def skip : List Token → List Token
  | [] => []
  | token :: rest =>
      match token.lexeme with
      | .opening _ => afterClosing 0 rest
      | .closing _ => []
      | _ => rest

/-- Whether the list starts with the characters of an operator, all but the last of them joint. -/
def isOperator : List Char → List Token → Bool
  | [], _ => true
  | _ :: _, [] => false
  | char :: chars, token :: rest =>
      match token.lexeme with
      | .mark found joint => found == char && (chars.isEmpty || joint) && isOperator chars rest
      | _ => false

def isMark (operator : String) (tokens : List Token) : Bool := isOperator operator.toList tokens

def isWord (text : String) : List Token → Bool
  | [] => false
  | token :: _ => token.lexeme == .word text

def isAnyWord : List Token → Bool
  | [] => false
  | token :: _ =>
      match token.lexeme with
      | .word _ => true
      | _ => false

def isName : List Token → Bool
  | [] => false
  | token :: _ =>
      match token.lexeme with
      | .word text => !keywords.contains text
      | _ => false

def isLifetime : List Token → Bool
  | [] => false
  | token :: _ =>
      match token.lexeme with
      | .lifetime _ => true
      | _ => false

def isPlainLiteral : List Token → Bool
  | [] => false
  | token :: _ =>
      match token.lexeme with
      | .literal _ => true
      | _ => false

/-- Whether a literal comes; a minus sign in front of a number belongs to it. -/
def isLiteral (tokens : List Token) : Bool :=
  isPlainLiteral tokens || isWord "true" tokens || isWord "false" tokens ||
    (isMark "-" tokens &&
      match skip tokens with
      | [] => false
      | token :: _ =>
          match token.lexeme with
          | .literal text => text.toList.head?.any Char.isDigit
          | _ => false)

def isTextLiteral : List Token → Bool
  | [] => false
  | token :: _ =>
      match token.lexeme with
      | .literal text => ['"', 'r'].any fun char => text.toList.head? == some char
      | _ => false

def isOpening (delimiter : Delimiter) : List Token → Bool
  | [] => false
  | token :: _ => token.lexeme == .opening delimiter

def isAnyOpening (tokens : List Token) : Bool := Delimiter.all.any fun delimiter => isOpening delimiter tokens

/-- The words that start a path without being identifiers. -/
def isPathWord (tokens : List Token) : Bool :=
  ["self", "Self", "super", "crate"].any fun text => isWord text tokens

/-- Whether the test holds after one token or pair of brackets. -/
def second (test : List Token → Bool) (tokens : List Token) : Bool := test (skip tokens)

/-- Whether the test holds after two tokens or pairs of brackets. -/
def third (test : List Token → Bool) (tokens : List Token) : Bool := test (skip (skip tokens))

end Ahead

end ObjectMapping.Source
