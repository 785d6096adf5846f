/-
This file reads items.
-/

import ObjectMapping.Source.Grammar.Member
import ObjectMapping.Source.Grammar.Type

namespace ObjectMapping.Source

open Reader

def structItem (grammar : Grammar) : Reader Item := do
  keyword "struct"
  let text ← name
  let isGeneric ← generics grammar
  let hasConditions ← whereClause grammar
  if ← sees (Ahead.isOpening .brace) then
    let fields ← namedFields grammar
    return .struct ⟨text, isGeneric, some fields⟩
  else
    if !hasConditions && (← sees (Ahead.isOpening .parenthesis)) then
      countedFieldList grammar
      let _ ← whereClause grammar
    mark ";"
    return .struct ⟨text, isGeneric, none⟩

def enumItem (grammar : Grammar) : Reader Item := do
  keyword "enum"
  let text ← name
  let isGeneric ← generics grammar
  let _ ← whereClause grammar
  let variants ← within .brace (commaList (variant grammar))
  return .enum ⟨text, isGeneric, variants⟩

def unionItem (grammar : Grammar) : Reader Item := do
  keyword "union"
  let _ ← name
  let _ ← generics grammar
  let _ ← whereClause grammar
  let _ ← namedFields grammar
  return .other

/-- Whether parameters come behind `impl`, and not a type that starts with a path in angle brackets. -/
def startsParameters (tokens : List Token) : Bool :=
  let second := Ahead.skip tokens
  let third := Ahead.skip second
  Ahead.isMark "<" tokens &&
    (Ahead.isMark ">" second || Ahead.isMark "#" second || Ahead.isWord "const" second ||
      ((Ahead.isLifetime second || Ahead.isName second) &&
        (Ahead.isMark ">" third || Ahead.isMark "," third || Ahead.isMark "=" third ||
          (Ahead.isMark ":" third && !Ahead.isMark "::" third))))

/-- The sign that excludes a trait. -/
def startsExclusion (tokens : List Token) : Bool :=
  Ahead.isMark "!" tokens && !Ahead.second (Ahead.isOpening .brace) tokens

/-- The trait that a type in front of `for` names, by the last name of its path. -/
def implementedTrait? (type : WrittenType) : Option String :=
  (type.head?.filter fun head => !head.isQualified).map (·.last)

/-- An `impl` block, and whether it is written out as it stands. -/
def implItem (grammar : Grammar) (isMarked : Bool) : Reader (Bool × Item) := do
  let _ ← keyword? "default"
  let _ ← keyword? "unsafe"
  keyword "impl"
  let isGeneric ← if ← sees startsParameters then generics grammar else pure false
  let isMaybe ← if ← sees fun tokens =>
      Ahead.isMark "?" tokens && Ahead.second (Ahead.isWord "const") tokens then
    mark? "?"
  else
    pure false
  let isConst ← keyword? "const"
  let isExcluding ← sees startsExclusion
  if isExcluding then
    mark "!"
  let first ← grammar.type true
  let isForTrait ← keyword? "for"
  let owner ←
    if isForTrait then grammar.type true
    else if isExcluding then pure (.other first.tokens)
    else pure first
  let implemented := if isForTrait then implementedTrait? first else none
  let _ ← whereClause grammar
  let members ← within .brace do
    let _ ← innerAttributes grammar
    untilEnd (implMember grammar)
  if isMarked || isMaybe || isConst || (isForTrait && implemented.isNone) then
    return (true, .other)
  else
    return (false, .impl ⟨isGeneric, owner, implemented, members⟩)

/-- What follows the name and the parameters of a trait: supertraits, conditions and members. -/
def traitBody (grammar : Grammar) : Reader (List Attribute × List TraitMember) := do
  let isBoundEnd (tokens : List Token) : Bool :=
    Ahead.isWord "where" tokens || Ahead.isOpening .brace tokens
  optionalBounds (separated isBoundEnd "+" (grammar.bound false true))
  let _ ← whereClause grammar
  within .brace do
    let attributes ← innerAttributes grammar
    return (attributes, ← untilEnd (traitMember grammar))

/-- A trait or the alias of one. -/
def traitItem (grammar : Grammar) (attributes : List Attribute) (seen : List Token) :
    Reader Item := do
  let isUnsafe ← keyword? "unsafe"
  let isAuto ← keyword? "auto"
  keyword "trait"
  let token ← pass "identifier" Ahead.isName
  let (genericTokens, isGeneric) ← capture (generics grammar)
  if !isUnsafe && !isAuto && (← seesMark "=") then
    mark "="
    let isBoundEnd (tokens : List Token) : Bool :=
      Ahead.isWord "where" tokens || Ahead.isMark ";" tokens
    let _ ← separated isBoundEnd "+" (grammar.bound false true)
    let _ ← whereClause grammar
    mark ";"
    return .other
  else
    let (inner, members) ← traitBody grammar
    return .trait
      { attributes := attributes ++ inner
        visibility := seen
        name := token.lexeme.text
        location := token.location
        generics := genericTokens
        isGeneric := isGeneric
        members := members }

/-- A static behind its visibility; it says whether it is written out as it stands. -/
def staticItem (grammar : Grammar) : Reader Bool := do
  keyword "static"
  let _ ← keyword? "mut"
  let _ ← name
  let hasType ← mark? ":"
  if hasType then
    let _ ← grammar.type true
  let hasValue ← mark? "="
  if hasValue then
    let _ ← grammar.expression true
  mark ";"
  return !hasType || !hasValue

def externCrate : Reader Unit := do
  keyword "extern"
  keyword "crate"
  let _ ← nameOr "self"
  if ← keyword? "as" then
    let _ ← nameOr "_"
  mark ";"

def foreignBlock (grammar : Grammar) : Reader Unit := do
  let _ ← keyword? "unsafe"
  let _ ← interface?
  within .brace do
    let _ ← innerAttributes grammar
    let _ ← untilEnd (foreignMember grammar)

def moduleItem (grammar : Grammar) : Reader Unit := do
  let _ ← keyword? "unsafe"
  keyword "mod"
  let _ ← nameOr "try"
  if !(← mark? ";") then
    within .brace do
      let _ ← innerAttributes grammar
      let _ ← untilEnd grammar.item

/-- The trees of an import in braces, at most as many as the budget allows. It says whether one of them
starts with two colons. -/
def useTrees (grammar : Grammar) (allowsRoot : Bool) : Nat → Reader Bool
  | 0 => refuse "token"
  | budget + 1 => do
      if ← seesEnd then
        return false
      else
        let isRooted ← if allowsRoot then mark? "::" else pure false
        let holdsRoot ← grammar.useTree (allowsRoot && !isRooted)
        if ← seesEnd then
          return isRooted || holdsRoot
        else
          mark ","
          let others ← useTrees grammar allowsRoot budget
          return isRooted || holdsRoot || others

def startsUseName (tokens : List Token) : Bool :=
  Ahead.isName tokens ||
    ["self", "super", "crate", "try"].any fun text => Ahead.isWord text tokens

/-- An import tree; it says whether a tree in braces starts with two colons. -/
def useTree (grammar : Grammar) (allowsRoot : Bool) : Reader Bool := do
  if ← sees startsUseName then
    let _ ← anyWord
    if ← mark? "::" then
      grammar.useTree false
    else
      if ← keyword? "as" then
        let _ ← nameOr "_"
      return false
  else if ← mark? "*" then
    return false
  else
    within .brace do
      useTrees grammar allowsRoot (← budget)

def useItem (grammar : Grammar) : Reader Bool := do
  keyword "use"
  let isRooted ← mark? "::"
  let holdsRoot ← grammar.useTree (!isRooted)
  mark ";"
  return holdsRoot

/-- The definition of a macro by the word `macro`. -/
def macroDefinition : Reader Unit := do
  keyword "macro"
  let _ ← name
  if ← sees (Ahead.isOpening .parenthesis) then
    tree
  if ← sees (Ahead.isOpening .brace) then
    tree
  else
    refuse "braces"

/-- A macro call as an item; it can define a name. -/
def macroItem : Reader Unit := do
  let _ ← plainPath
  mark "!"
  if ← sees fun tokens => Ahead.isName tokens || Ahead.isWord "try" tokens then
    let _ ← anyWord
  if !(← macroArguments) then
    mark ";"

/-- Whether a foreign block comes. -/
def startsForeignBlock (tokens : List Token) : Bool :=
  Ahead.isWord "extern" tokens &&
    (Ahead.second (Ahead.isOpening .brace) tokens ||
      (Ahead.second Ahead.isTextLiteral tokens && Ahead.third (Ahead.isOpening .brace) tokens))

def startsTrait (tokens : List Token) : Bool :=
  Ahead.isWord "trait" tokens ||
    (Ahead.isWord "auto" tokens && Ahead.second (Ahead.isWord "trait") tokens)

/-- Whether the test holds, or holds behind `unsafe`. -/
def startsGuarded (test : List Token → Bool) (tokens : List Token) : Bool :=
  test tokens || (Ahead.isWord "unsafe" tokens && Ahead.second test tokens)

def startsImpl (tokens : List Token) : Bool :=
  startsGuarded (Ahead.isWord "impl") tokens || startsDefault tokens

/-- An item behind its attributes and visibility, and whether it is written out as it stands. -/
def itemBehind (grammar : Grammar) (attributes : List Attribute) (seen : Visibility)
    (seenTokens : List Token) : Reader (Bool × Item) := do
  if ← sees (startsFunction false) then
    let _ ← signature grammar
    let body ← bodyOrSemicolon grammar
    return (body.isNone, .other)
  else if ← sees fun tokens =>
      Ahead.isWord "extern" tokens && Ahead.second (Ahead.isWord "crate") tokens then
    externCrate
    return (false, .other)
  else if seen == .inherited && (← sees fun tokens =>
      startsForeignBlock tokens ||
        (Ahead.isWord "unsafe" tokens && Ahead.second (Ahead.isWord "extern") tokens)) then
    foreignBlock grammar
    return (false, .other)
  else if ← seesWord "use" then
    return (← useItem grammar, .other)
  else if ← seesWord "static" then
    return (← staticItem grammar, .other)
  else if ← seesWord "const" then
    let (isGeneric, hasValue) ← constant grammar
    return (isGeneric || !hasValue, .other)
  else if ← sees (startsGuarded startsTrait) then
    return (false, ← traitItem grammar attributes seenTokens)
  else if ← sees (startsGuarded (Ahead.isWord "mod")) then
    moduleItem grammar
    return (false, .other)
  else if ← seesWord "type" then
    let (hasColon, _, type) ← typeAlias grammar .beforeType
    return (hasColon || type.isNone, .other)
  else if ← seesWord "struct" then
    return (false, ← structItem grammar)
  else if ← seesWord "enum" then
    return (false, ← enumItem grammar)
  else if ← sees fun tokens =>
      Ahead.isWord "union" tokens && Ahead.second Ahead.isName tokens then
    return (false, ← unionItem grammar)
  else if ← sees startsImpl then
    implItem grammar (seen != .inherited)
  else if ← seesWord "macro" then
    macroDefinition
    return (true, .other)
  else if seen == .inherited && (← sees startsMacroPath) then
    macroItem
    return (false, .other)
  else
    refuse "item"

/-- An item with its attributes. -/
def item (grammar : Grammar) : Reader Item :=
  verbatimIf do
    let attributes ← outerAttributes grammar
    let (seenTokens, seen) ← capture visibility
    itemBehind grammar attributes seen seenTokens

end ObjectMapping.Source
