/-
This file cuts a source text into tokens. White space and plain comments vanish, documentation comments
become attributes, and brackets have to match. A text that cannot be cut has no tokens.
-/

import ObjectMapping.Source.Comment
import ObjectMapping.Source.Literal

namespace ObjectMapping

/-- The position behind a stretch of text that starts at the given one. -/
def Location.after (location : Location) (text : List Char) : Location :=
  text.foldl
    (fun current char =>
      if char = '\n' then ⟨current.line + 1, 0⟩ else ⟨current.line, current.column + 1⟩)
    location

namespace Source

def startsWith (text : List Char) (start : String) : Bool := start.toList.isPrefixOf text

/-- The part of a text in front of a rest of it. -/
def taken (text rest : List Char) : List Char := text.take (text.length - rest.length)

/-- The words that have no raw form. -/
def neverRaw : List String := ["_", "super", "self", "Self", "crate"]

/-- What follows an identifier, which can have the prefix of raw identifiers. -/
def afterIdentifier? (text : List Char) : Option (List Char) :=
  match text with
  | 'r' :: '#' :: raw =>
      match afterWord? raw with
      | some rest =>
          if neverRaw.contains (String.ofList (taken raw rest)) then none else some rest
      | none => none
  | _ => afterWord? text

/-- The starts of literals; a word cannot start like this even where the literal is not complete. -/
def literalStarts : List String :=
  ["r\"", "r#\"", "r##", "b\"", "b'", "br\"", "br#", "c\"", "cr\"", "cr#"]

def word? (text : List Char) : Option (Lexeme × List Char) :=
  if literalStarts.any (startsWith text) then none
  else
    (afterIdentifier? text).map fun rest => (.word (String.ofList (taken text rest)), rest)

def markChars : List Char := "~!@#$%^&*-=+|;:,<.>/?'".toList

/-- Whether the text starts with a character of an operator; one that starts a comment is none. -/
def startsWithMark : List Char → Bool
  | '/' :: '/' :: _ => false
  | '/' :: '*' :: _ => false
  | char :: _ => markChars.contains char
  | [] => false

/-- A lifetime whose apostrophe has been read; a second apostrophe would make it a broken character. -/
def lifetime? (named : List Char) : Option (Lexeme × List Char) :=
  match afterIdentifier? named with
  | some rest =>
      if startsWith rest "'" || (startsWith rest "#" && !startsWith named "r#") then none
      else some (.lifetime (String.ofList ('\x27' :: taken named rest)), rest)
  | none => none

def mark? (text : List Char) : Option (Lexeme × List Char) :=
  match text with
  | [] => none
  | '\x27' :: named => lifetime? named
  | char :: rest =>
      if startsWithMark text then some (.mark char (startsWithMark rest), rest) else none

def bracket? : List Char → Option (Lexeme × List Char)
  | [] => none
  | char :: rest =>
      match Delimiter.ofOpening? char, Delimiter.ofClosing? char with
      | some delimiter, _ => some (.opening delimiter, rest)
      | none, some delimiter => some (.closing delimiter, rest)
      | none, none => none

def literal? (text : List Char) : Option (Lexeme × List Char) :=
  (afterLiteral? text).map fun rest => (.literal (String.ofList (taken text rest)), rest)

/-- The lexemes at the front of a text that starts with neither white space nor a plain comment. -/
def lexemes? (text : List Char) : Option (List Lexeme × List Char) :=
  match docComment? text with
  | some (isInner, comment, rest) =>
      if hasNoLoneReturn comment then some (docLexemes isInner comment, rest) else none
  | none =>
      ((bracket? text).or ((literal? text).or ((mark? text).or (word? text)))).map
        fun (lexeme, rest) => ([lexeme], rest)

/-- The tokens of a text that starts at the given position. -/
def scanFrom (location : Location) (text : List Char) : Option (List Token) :=
  let start := skipBlanks text
  if start.isEmpty then some []
  else
    match lexemes? start with
    | none => none
    | some (lexemes, rest) =>
        if shorter : rest.length < start.length then
          have : start.length ≤ text.length := skipBlanksLength text
          let place := location.after (taken text start)
          (scanFrom (place.after (taken start rest)) rest).map
            (lexemes.map (fun lexeme => ⟨lexeme, place⟩) ++ ·)
        else
          none
  termination_by text.length
  decreasing_by omega

/-- Whether brackets match, inside the given open ones. -/
def isBalanced (unclosed : List Delimiter) : List Token → Bool
  | [] => unclosed.isEmpty
  | token :: rest =>
      match token.lexeme with
      | .opening delimiter => isBalanced (delimiter :: unclosed) rest
      | .closing delimiter =>
          match unclosed with
          | [] => false
          | innermost :: outer => innermost == delimiter && isBalanced outer rest
      | _ => isBalanced unclosed rest

/-- The mark that a text file may start with. -/
def withoutByteOrderMark : List Char → List Char
  | '\uFEFF' :: rest => rest
  | text => text

/-- The tokens of a text, if it can be cut into tokens. -/
def scan (text : List Char) : Option (List Token) :=
  (scanFrom Location.startOfText (withoutByteOrderMark text)).filter (isBalanced [])

/-- The text with its first line emptied if that line names an interpreter: it starts with `#!`, which
no bracket follows. -/
def withoutInterpreterLine (text : List Char) : List Char :=
  if startsWith text "#!" && !startsWith (skipBlanks (text.drop 2)) "[" then
    text.dropWhile (· != '\n')
  else
    text

/-- The tokens of a source file. -/
def scanFile (text : String) : Option (List Token) :=
  scan (withoutInterpreterLine (withoutByteOrderMark text.toList))

end Source

end ObjectMapping
