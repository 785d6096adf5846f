/-
This file defines readers of phrases. A reader takes tokens off the front of a list and sets down how
they are written out again: each operator that the grammar knows is one piece, and what the grammar
drops or moves is dropped or moved.
-/

import ObjectMapping.Source.Ahead

namespace ObjectMapping.Source

/-- Why a text cannot be read. -/
inductive SyntaxFault
  /-- The text cannot be cut into tokens. -/
  | noTokens
  /-- Tokens are left behind a complete phrase, in front of a closing bracket if there is one. -/
  | leftover (inside : Option Delimiter)
  /-- A statement that has to end with a semicolon goes on. -/
  | unended
  /-- A phrase is missing. -/
  | missing (phrase : String) (atEnd : Bool)
  deriving Repr, DecidableEq

def SyntaxFault.message : SyntaxFault → String
  | .noTokens => "cannot parse string into token stream"
  | .leftover none => "unexpected token"
  | .leftover (some delimiter) =>
      "unexpected token, expected `" ++ delimiter.closingChar.toString ++ "`"
  | .unended => "unexpected token, expected `;`"
  | .missing phrase false => s!"expected {phrase}"
  | .missing phrase true => s!"unexpected end of input, expected {phrase}"

structure Feed where
  /-- What is still to be read. -/
  rest : List Token
  /-- What has been written out, the latest first. -/
  written : List Token
  /-- Whether the options on struct fields are written out. -/
  keepsOptions : Bool
  deriving Repr

abbrev Reader := StateT Feed (Except SyntaxFault)

namespace Reader

/-- Refuses what comes because the phrase does not. -/
def refuse {α : Type} (phrase : String) : Reader α := do
  throw (.missing phrase (Ahead.isEnd (← get).rest))

def sees (test : List Token → Bool) : Reader Bool := return test (← get).rest

def seesMark (operator : String) : Reader Bool := sees (Ahead.isMark operator)

def seesWord (text : String) : Reader Bool := sees (Ahead.isWord text)

def seesEnd : Reader Bool := sees Ahead.isEnd

def write (tokens : List Token) : Reader Unit :=
  modify fun feed => { feed with written := tokens.reverse ++ feed.written }

/-- Takes the first token if it satisfies the test, and writes nothing. -/
def take (phrase : String) (test : List Token → Bool) : Reader Token := do
  let feed ← get
  match feed.rest with
  | [] => refuse phrase
  | token :: rest =>
      if test feed.rest then
        set { feed with rest := rest }
        return token
      else
        refuse phrase

/-- Takes the first token and writes it out. -/
def pass (phrase : String) (test : List Token → Bool) : Reader Token := do
  let token ← take phrase test
  write [token]
  return token

/-- The tokens of an operator in one piece. -/
def glued (operator : String) (location : Location) : List Token :=
  operator.toList.zipIdx.map fun (char, index) =>
    ⟨.mark char (index + 1 < operator.toList.length), location⟩

/-- Takes an operator without writing it out. -/
def dropMark (operator : String) : Reader Location := do
  let feed ← get
  if Ahead.isMark operator feed.rest then
    set { feed with rest := feed.rest.drop operator.toList.length }
    return tokensLocation feed.rest
  else
    refuse s!"`{operator}`"

def mark (operator : String) : Reader Unit := do
  let location ← dropMark operator
  write (glued operator location)

/-- Reads an operator if it comes. -/
def mark? (operator : String) : Reader Bool := do
  if ← seesMark operator then
    mark operator
    return true
  else
    return false

def keyword (text : String) : Reader Unit := do
  let _ ← pass s!"`{text}`" (Ahead.isWord text)

def keyword? (text : String) : Reader Bool := do
  if ← seesWord text then
    keyword text
    return true
  else
    return false

/-- Reads a word and gives its text. -/
def wordWhere (test : List Token → Bool) : Reader String := do
  let token ← pass "identifier" test
  return token.lexeme.text

def name : Reader String := wordWhere Ahead.isName

def anyWord : Reader String := wordWhere Ahead.isAnyWord

/-- Reads a name, or the word given in its place. -/
def nameOr (text : String) : Reader String :=
  wordWhere fun tokens => Ahead.isName tokens || Ahead.isWord text tokens

def lifetime : Reader Unit := do
  let _ ← pass "lifetime" Ahead.isLifetime

def lifetime? : Reader Unit := do
  if ← sees Ahead.isLifetime then lifetime

/-- Reads a literal and gives the text of its last token. -/
def literal : Reader String := do
  if !(← sees Ahead.isLiteral) then
    refuse "literal"
  else
    let _ ← mark? "-"
    let token ← pass "literal" fun tokens => Ahead.isLiteral tokens
    return token.lexeme.text

/-- A pair of brackets as faults name it. -/
def bracketPhrase : Delimiter → String
  | .parenthesis => "parentheses"
  | .bracket => "square brackets"
  | .brace => "curly braces"

/-- Reads what stands in brackets; the body has to read all of it. -/
def within {α : Type} (delimiter : Delimiter) (body : Reader α) : Reader α := do
  let _ ← pass (bracketPhrase delimiter) (Ahead.isOpening delimiter)
  let value ← body
  if ← sees (fun tokens => tokens.head?.any fun token => token.lexeme == .closing delimiter) then
    let _ ← pass (bracketPhrase delimiter) fun _ => true
    return value
  else
    throw (.leftover (some delimiter))

/-- The tokens that the body writes, which are written on. -/
def capture {α : Type} (body : Reader α) : Reader (List Token × α) := do
  let outer := (← get).written
  modify fun feed => { feed with written := [] }
  let value ← body
  let inner := (← get).written
  modify fun feed => { feed with written := inner ++ outer }
  return (inner.reverse, value)

/-- The tokens that the body writes, which are not written on. -/
def withhold {α : Type} (body : Reader α) : Reader (List Token × α) := do
  let outer := (← get).written
  modify fun feed => { feed with written := [] }
  let value ← body
  let inner := (← get).written
  modify fun feed => { feed with written := outer }
  return (inner.reverse, value)

/-- Writes out what the body reads just as it stands. -/
def verbatim {α : Type} (body : Reader α) : Reader α := do
  let before := (← get).rest
  let (_, value) ← withhold body
  let after := (← get).rest
  write (before.take (before.length - after.length))
  return value

/-- Writes out what the body reads just as it stands if the body asks for it. -/
def verbatimIf {α : Type} (body : Reader (Bool × α)) : Reader α := do
  let before := (← get).rest
  let (tokens, isVerbatim, value) ← withhold body
  let after := (← get).rest
  write (if isVerbatim then before.take (before.length - after.length) else tokens)
  return value

/-- Reads the phrase unless it is refused, in which case nothing has been read. -/
def attempt {α : Type} (body : Reader α) : Reader (Option α) := fun feed =>
  match body feed with
  | .ok (value, after) => .ok (some value, after)
  | .error _ => .ok (none, feed)

/-- Reads one token, or a pair of brackets with all it holds, as it stands. -/
def tree : Reader Unit := do
  let feed ← get
  if Ahead.isEnd feed.rest then
    refuse "token"
  else
    let after := Ahead.skip feed.rest
    write (feed.rest.take (feed.rest.length - after.length))
    modify fun current => { current with rest := after }

/-- Reads a pair of brackets with all it holds, as it stands, and gives what they hold with the place
where they close. -/
def brackets : Reader (Delimiter × List Token × Location) := do
  let feed ← get
  match Delimiter.all.find? fun delimiter => Ahead.isOpening delimiter feed.rest with
  | none => refuse "delimiter"
  | some delimiter =>
      let (tokens, _) ← capture tree
      let inner := (tokens.drop 1).dropLast
      return (delimiter, inner, tokensLocation (tokens.drop (tokens.length - 1)))

/-- A bound on the number of phrases that can follow. -/
def budget : Reader Nat := return (← get).rest.length + 1

/-- Reads phrases as long as the test holds, at most as many as the budget allows. -/
def repeatedly {α : Type} (test : List Token → Bool) (item : Reader α) : Nat → Reader (List α)
  | 0 => refuse "token"
  | budget + 1 => do
      if ← sees test then
        let first ← item
        let others ← repeatedly test item budget
        return first :: others
      else
        return []

/-- Reads phrases as long as the test holds. -/
def many {α : Type} (test : List Token → Bool) (item : Reader α) : Reader (List α) := do
  repeatedly test item (← budget)

/-- Reads phrases until the list ends. -/
def untilEnd {α : Type} (item : Reader α) : Reader (List α) := many (fun tokens => !Ahead.isEnd tokens) item

/-- Reads phrases with the separator between them until the test holds, at most as many as the budget
allows. The separator can also come last. -/
def separatedWithin {α : Type} (stop : List Token → Bool) (separator : String) (item : Reader α) :
    Nat → Reader (List α)
  | 0 => refuse "token"
  | budget + 1 => do
      if ← sees stop then
        return []
      else
        let first ← item
        if ← sees stop then
          return [first]
        else
          mark separator
          let others ← separatedWithin stop separator item budget
          return first :: others

def separated {α : Type} (stop : List Token → Bool) (separator : String) (item : Reader α) :
    Reader (List α) := do
  separatedWithin stop separator item (← budget)

/-- Reads a list with commas that fills its brackets. -/
def commaList {α : Type} (item : Reader α) : Reader (List α) := separated Ahead.isEnd "," item

/-- Reads one or more phrases as long as the separator comes between them, at most as many as the budget
allows; behind a separator the test has to hold for a further phrase. -/
def joinedWithin {α : Type} (separator : List Token → Bool) (divide : Reader Unit)
    (test : List Token → Bool) (item : Reader α) : Nat → Reader (List α)
  | 0 => refuse "token"
  | budget + 1 => do
      let first ← item
      if ← sees separator then
        divide
        if ← sees test then
          let others ← joinedWithin separator divide test item budget
          return first :: others
        else
          return [first]
      else
        return [first]

def joined {α : Type} (separator : String) (test : List Token → Bool) (item : Reader α) :
    Reader (List α) := do
  joinedWithin (Ahead.isMark separator) (mark separator) test item (← budget)

/-- What a reader makes of a list of tokens, all of which it has to read, with the tokens it writes. -/
def run {α : Type} (body : Reader α) (keepsOptions : Bool) (tokens : List Token) :
    Except SyntaxFault (List Token × α) :=
  match body ⟨tokens, [], keepsOptions⟩ with
  | .ok (value, after) =>
      if after.rest.isEmpty then .ok (after.written.reverse, value) else .error (.leftover none)
  | .error fault => .error fault

end Reader

end ObjectMapping.Source
