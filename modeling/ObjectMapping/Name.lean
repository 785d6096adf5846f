/-
This file cuts identifiers into words and writes the words in the common styles. A word ends at every
character that is neither letter nor digit, before the capital of `orderStatus`, and before the last
capital of a run that a small letter follows, as in `HTTPServer`.
-/

import ObjectMapping.Text.LetterCase

namespace ObjectMapping

/-- The lowered words that an identifier is made of. -/
structure Name where
  parts : List String
  deriving Repr, DecidableEq

namespace Name

open Text

/-- What the letters read since the last word boundary were. -/
inductive LetterRun
  | boundary
  | small
  | capital
  deriving Repr, DecidableEq

def LetterRun.after (run : LetterRun) (char : Char) : LetterRun :=
  if isLowercase char then .small else if isUppercase char then .capital else run

/-- The words of a stretch of letters and digits, of which `word` has been read. -/
def wordsOfStretch (run : LetterRun) (word : List Char) : List Char → List (List Char)
  | [] => if word.isEmpty then [] else [word]
  | [char] => [word ++ [char]]
  | char :: next :: rest =>
      if run.after char = .small ∧ isUppercase next then
        (word ++ [char]) :: wordsOfStretch .boundary [] (next :: rest)
      else if run = .capital ∧ isUppercase char ∧ isLowercase next then
        word :: wordsOfStretch .boundary [char] (next :: rest)
      else
        wordsOfStretch (run.after char) (word ++ [char]) (next :: rest)

def wordsOfText (text : List Char) : List (List Char) :=
  (splitOnChars (fun char => !isAlphanumeric char) text).flatMap (wordsOfStretch .boundary [])

def ofText (text : String) : Name where
  parts := (wordsOfText text.toList).map fun word => String.ofList (lowerWord word)

/-- The words joined by underscores, as in `order_status`. -/
def snakeCase (name : Name) : String := "_".intercalate name.parts

/-- The words in one run with a capital at the head of each but the first, as in `orderStatus`. -/
def camelCase (name : Name) : String :=
  match wordsOfText name.snakeCase.toList with
  | [] => ""
  | first :: others => String.ofList (lowerWord first ++ others.flatMap capitalizeWord)

/-- The words in one run with a capital at the head of each, as in `OrderStatus`. -/
def upperCamelCase (name : Name) : String :=
  String.ofList ((wordsOfText name.snakeCase.toList).flatMap capitalizeWord)

end Name

end ObjectMapping
