/-
This file tells the words of a command line apart by their dashes.
-/

namespace ObjectMapping.CommandLine

/-- A word of a command line. -/
inductive Word
  /-- Two dashes: all words behind them are plain. -/
  | separator
  /-- An option by its name, and the value behind an equals sign. -/
  | long (name : List Char) (value : Option String)
  /-- Options by their letters. -/
  | short (letters : List Char)
  | plain
  deriving Repr, DecidableEq

namespace Word

/-- An option by its name, from what stands behind two dashes. -/
def named (text : List Char) : Word :=
  match text.dropWhile (· != '=') with
  | [] => .long text none
  | _ :: value => .long (text.takeWhile (· != '=')) (some (String.ofList value))

def ofChars : List Char → Word
  | ['-', '-'] => .separator
  | '-' :: '-' :: text => named text
  | ['-'] => .plain
  | '-' :: letters => .short letters
  | _ => .plain

def ofText (text : String) : Word := ofChars text.toList

end Word

end ObjectMapping.CommandLine
