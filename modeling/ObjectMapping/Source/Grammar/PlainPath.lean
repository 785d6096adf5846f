/-
This file reads paths without arguments, and macro calls, which start with such a path.
-/

import ObjectMapping.Source.Grammar.Basic

namespace ObjectMapping.Source

open Reader

/-- Whether a segment of a path without arguments comes. -/
def startsPlainSegment (tokens : List Token) : Bool := Ahead.isName tokens || Ahead.isPathWord tokens

/-- A path in which no segment has arguments. -/
def plainPath : Reader PathHead := do
  let isRooted ← mark? "::"
  let first ← wordWhere startsPlainSegment
  let others ← many (Ahead.isMark "::") do
    mark "::"
    wordWhere startsPlainSegment
  return ⟨false, isRooted, others.length + 1, others.getLastD first, .none⟩

/-- The arguments of a macro in their brackets, as they stand; it says whether the brackets are
braces. -/
def macroArguments : Reader Bool := do
  let (delimiter, _) ← brackets
  return delimiter == .brace

/-- Whether the sign of a macro call comes. -/
def startsMacroSign (tokens : List Token) : Bool :=
  Ahead.isMark "!" tokens && !Ahead.isMark "!=" tokens

end ObjectMapping.Source
