/-
This file reads attributes and the kinds of blocks that can hold them.
-/

import ObjectMapping.Source.Grammar.PlainPath

namespace ObjectMapping.Source

open Reader

/-- The value of an attribute: a literal that fills it, or an expression without attributes. -/
def attributeValue (grammar : Grammar) : Reader Unit := do
  if ← sees fun tokens =>
      Ahead.isMark "#" tokens && Ahead.second (Ahead.isOpening .bracket) tokens then
    refuse "value"
  else
    let _ ← grammar.expression true

def attributePath : Reader PathHead := do
  if ← seesWord "unsafe" then
    let text ← anyWord
    return ⟨false, false, 1, text, .none⟩
  else
    plainPath

/-- What an attribute holds in its brackets. -/
def attributeContent (grammar : Grammar) : Reader Attribute := do
  let location := tokensLocation (← get).rest
  let head ← attributePath
  if ← sees Ahead.isAnyOpening then
    let (_, arguments, closing) ← brackets
    return ⟨head, location, .list arguments closing⟩
  else if ← seesMark "=" then
    let equals := tokensLocation (← get).rest
    mark "="
    attributeValue grammar
    return ⟨head, location, .value equals⟩
  else
    return ⟨head, location, .bare⟩

def outerAttribute (grammar : Grammar) : Reader Attribute := do
  mark "#"
  within .bracket (attributeContent grammar)

def innerAttribute (grammar : Grammar) : Reader Attribute := do
  mark "#"
  mark "!"
  within .bracket (attributeContent grammar)

/-- The attributes in front of a phrase. -/
def outerAttributes (grammar : Grammar) : Reader (List Attribute) :=
  many (Ahead.isMark "#") (outerAttribute grammar)

def startsInner (tokens : List Token) : Bool :=
  Ahead.isMark "#" tokens && Ahead.second (Ahead.isMark "!") tokens

/-- The attributes at the start of what they belong to. -/
def innerAttributes (grammar : Grammar) : Reader (List Attribute) :=
  many startsInner (innerAttribute grammar)

/-- An attribute of a struct field, which is an option of the field if it has the option's name. -/
def fieldAttribute (grammar : Grammar) : Reader Attribute := do
  let (tokens, found) ← withhold (outerAttribute grammar)
  if (← get).keepsOptions || !found.isNamed "mapgen" then
    write tokens
  return found

def fieldAttributes (grammar : Grammar) : Reader (List Attribute) :=
  many (Ahead.isMark "#") (fieldAttribute grammar)

/-- Statements in braces. -/
def plainBlock (grammar : Grammar) : Reader (List Statement) := within .brace grammar.statements

/-- Statements in braces, with the attributes of what they are the body of. -/
def bodyBlock (grammar : Grammar) : Reader (List Statement) :=
  within .brace do
    let _ ← innerAttributes grammar
    grammar.statements

end ObjectMapping.Source
