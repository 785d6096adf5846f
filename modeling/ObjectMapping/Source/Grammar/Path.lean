/-
This file reads paths with their arguments, and lists in angle brackets. In such a list lifetimes are
written in front of all else.
-/

import ObjectMapping.Source.Grammar.Attribute

namespace ObjectMapping.Source

open Reader

/-- An element of a list in angle brackets. -/
structure AngledPiece where
  isLifetime : Bool
  tokens : List Token
  /-- Whether a comma follows. -/
  hasComma : Bool

namespace AngledPiece

def comma (location : Location) : Token := ⟨.mark ',' false, location⟩

/-- The pieces one after the other; a piece that is no longer the last gets its comma. -/
def joinedTokens : List AngledPiece → List Token
  | [] => []
  | [last] => last.tokens ++ if last.hasComma then [comma (tokensLocation last.tokens)] else []
  | piece :: next :: rest =>
      piece.tokens ++ comma (tokensLocation piece.tokens) :: joinedTokens (next :: rest)

def arranged (pieces : List AngledPiece) : List Token :=
  joinedTokens (pieces.filter (·.isLifetime) ++ pieces.filter fun piece => !piece.isLifetime)

end AngledPiece

/-- Reads the elements up to the closing angle, at most as many as the budget allows; nothing is
written. -/
def angledWithin {α : Type} (item : Reader (Bool × α)) : Nat → Reader (List (AngledPiece × α))
  | 0 => refuse "token"
  | budget + 1 => do
      if ← seesMark ">" then
        return []
      else
        let (tokens, isLifetime, value) ← withhold item
        if ← seesMark ">" then
          return [(⟨isLifetime, tokens, false⟩, value)]
        else
          let _ ← dropMark ","
          let others ← angledWithin item budget
          return (⟨isLifetime, tokens, true⟩, value) :: others

/-- Reads a list in angle brackets; an empty list can be dropped with its brackets. -/
def angled {α : Type} (keepsEmpty : Bool) (item : Reader (Bool × α)) : Reader (List α) := do
  let opening ← dropMark "<"
  let pieces ← angledWithin item (← budget)
  let closing ← dropMark ">"
  if keepsEmpty || !pieces.isEmpty then
    write (glued "<" opening ++ AngledPiece.arranged (pieces.map (·.1)) ++ glued ">" closing)
  return pieces.map (·.2)

/-- A value that stands among types: a literal, a name or a block. -/
def constArgument (grammar : Grammar) : Reader Unit := do
  if ← sees Ahead.isLiteral then
    let _ ← literal
  else if ← sees Ahead.isName then
    let _ ← name
  else
    let _ ← bodyBlock grammar

/-- Whether a value that is no name comes among types. -/
def isConstArgument (tokens : List Token) : Bool :=
  Ahead.isLiteral tokens || Ahead.isOpening .brace tokens

/-- Whether an argument that starts with this type can go on as an equation or a constraint. -/
def namesAssociated (type : WrittenType) : Bool :=
  type.head?.any fun head =>
    !head.isQualified && !head.isRooted && head.segments == 1 && head.arguments != .parenthesized

def isBoundsEnd (tokens : List Token) : Bool :=
  Ahead.isMark "," tokens || Ahead.isMark ">" tokens

/-- An argument of a path; it says whether the argument is a lifetime and gives a type that stands
alone. -/
def genericArgument (grammar : Grammar) : Reader (Bool × Option WrittenType) := do
  if ← sees fun tokens => Ahead.isLifetime tokens && !Ahead.second (Ahead.isMark "+") tokens then
    lifetime
    return (true, none)
  else if ← sees isConstArgument then
    constArgument grammar
    return (false, none)
  else
    let type ← grammar.type true
    if namesAssociated type then
      if ← mark? "=" then
        if ← sees isConstArgument then
          constArgument grammar
        else
          let _ ← grammar.type true
        return (false, none)
      else if ← mark? ":" then
        if !(← sees isBoundsEnd) then
          let _ ← joined "+" (fun tokens => !isBoundsEnd tokens) (grammar.bound false true)
        return (false, none)
      else
        return (false, some type)
    else
      return (false, some type)

/-- The arguments of a segment. -/
structure PathArguments where
  form : ArgumentForm
  /-- For each argument in angle brackets its type, if it is one. -/
  types : List (Option WrittenType)
  tokens : List Token

namespace PathArguments

def absent : PathArguments := ⟨.none, [], []⟩

end PathArguments

structure PathSegment where
  name : String
  arguments : PathArguments

/-- A path that has been read. -/
structure ReadPath where
  head : PathHead
  /-- Whether no segment has arguments. -/
  isPlain : Bool
  /-- The arguments of the last segment. -/
  arguments : PathArguments

namespace ReadPath

/-- The path made of the segments, of which there is at least one. -/
def ofSegments (isQualified isRooted : Bool) (first : PathSegment) (others : List PathSegment) :
    ReadPath :=
  let last := others.getLastD first
  { head := ⟨isQualified, isRooted, others.length + 1, last.name, last.arguments.form⟩
    isPlain := (first :: others).all fun segment => segment.arguments.form == .none
    arguments := last.arguments }

end ReadPath

/-- Arguments in angle brackets, with or without colons in front. -/
def angledArguments (grammar : Grammar) : Reader PathArguments := do
  let (tokens, types) ← capture do
    let _ ← mark? "::"
    angled true (genericArgument grammar)
  return ⟨.angled, types, tokens⟩

/-- Whether arguments in angle brackets come; in an expression they need colons in front. -/
def startsArguments (inExpression : Bool) (tokens : List Token) : Bool :=
  (!inExpression && Ahead.isMark "<" tokens && !Ahead.isMark "<=" tokens) ||
    (Ahead.isMark "::" tokens && Ahead.third (Ahead.isMark "<") tokens)

/-- The words that take no arguments in a path. -/
def isBareSegment (tokens : List Token) : Bool :=
  ["super", "self", "crate", "try"].any fun text => Ahead.isWord text tokens

def pathSegment (grammar : Grammar) (inExpression : Bool) : Reader PathSegment := do
  if ← sees isBareSegment then
    return ⟨← anyWord, .absent⟩
  else
    let text ← nameOr "Self"
    if ← sees (startsArguments inExpression) then
      return ⟨text, ← angledArguments grammar⟩
    else
      return ⟨text, .absent⟩

/-- The further segments of a path. -/
def furtherSegments (grammar : Grammar) (inExpression : Bool) (test : List Token → Bool) :
    Reader (List PathSegment) :=
  many test do
    mark "::"
    pathSegment grammar inExpression

/-- Whether a further segment comes; colons in front of parentheses belong to what follows. -/
def startsSegment (tokens : List Token) : Bool :=
  Ahead.isMark "::" tokens && !Ahead.third (Ahead.isOpening .parenthesis) tokens

def unqualifiedPath (grammar : Grammar) (inExpression : Bool) : Reader ReadPath := do
  let isRooted ← mark? "::"
  let first ← pathSegment grammar inExpression
  let others ← furtherSegments grammar inExpression startsSegment
  return .ofSegments false isRooted first others

/-- Whether a path comes. -/
def startsPath (tokens : List Token) : Bool :=
  Ahead.isName tokens || Ahead.isPathWord tokens || Ahead.isMark "::" tokens ||
    Ahead.isMark "<" tokens

/-- A path that can start with a type in angle brackets. -/
def path (grammar : Grammar) (inExpression : Bool) : Reader ReadPath := do
  if ← seesMark "<" then
    mark "<"
    let _ ← grammar.type true
    if ← keyword? "as" then
      let _ ← unqualifiedPath grammar false
    mark ">"
    mark "::"
    let first ← pathSegment grammar inExpression
    let others ← furtherSegments grammar inExpression (Ahead.isMark "::")
    return .ofSegments true false first others
  else
    unqualifiedPath grammar inExpression

end ObjectMapping.Source
