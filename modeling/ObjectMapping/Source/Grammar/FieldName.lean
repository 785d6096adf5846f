/-
This file reads what names a field: a word, or a whole number where fields are counted.
-/

import ObjectMapping.Source.Grammar.Basic

namespace ObjectMapping.Source

open Reader

def isCountDigit (char : Char) : Bool := char.isDigit || char == '_'

def countValue (digits : List Char) : Nat :=
  (digits.filter (· != '_')).foldl (fun value digit => 10 * value + (digit.toNat - '0'.toNat)) 0

/-- The number of a field as it is written out: in decimal digits, without underscores and leading
zeros. -/
def fieldNumber? (digits : List Char) : Option String :=
  if digits.head?.any Char.isDigit && digits.all isCountDigit && countValue digits < 4294967296 then
    some (toString (countValue digits))
  else
    none

/-- The name of a field; a field that is counted has none. -/
def fieldName : Reader (Option String) := do
  if ← sees Ahead.isName then
    return some (← name)
  else
    let token ← take "identifier or integer" Ahead.isPlainLiteral
    match fieldNumber? token.lexeme.text.toList with
    | some text =>
        write [⟨.literal text, token.location⟩]
        return none
    | none => refuse "unsuffixed integer"

end ObjectMapping.Source
