/-
This file defines the values that reports are made of and prints them with an indentation of two
spaces.
-/

namespace ObjectMapping

inductive Json
  | null
  | bool (value : Bool)
  | number (value : Nat)
  | string (value : String)
  | array (items : List Json)
  /-- Named values in the order in which they are printed. -/
  | object (fields : List (String × Json))
  deriving Repr

namespace Json

/-- A value that may be missing. -/
def ofOption {α : Type} (encode : α → Json) : Option α → Json
  | none => .null
  | some value => encode value

def ofList {α : Type} (encode : α → Json) (values : List α) : Json := .array (values.map encode)

def strings (values : List String) : Json := ofList .string values

/-- A value under the name of its alternative. -/
def tagged (tag : String) (value : Json) : Json := .object [(tag, value)]

def hexDigit (value : Nat) : Char :=
  if value < 10 then Char.ofNat ('0'.toNat + value) else Char.ofNat ('a'.toNat + value - 10)

/-- A character inside quotes; controls are written by a letter or by their number. -/
def escapeChar (char : Char) : List Char :=
  if char == '"' then ['\\', '"']
  else if char == '\\' then ['\\', '\\']
  else if char == '\n' then ['\\', 'n']
  else if char == '\r' then ['\\', 'r']
  else if char == '\t' then ['\\', 't']
  else if char == '\x08' then ['\\', 'b']
  else if char == '\x0c' then ['\\', 'f']
  else if char.toNat < 32 then
    ['\\', 'u', '0', '0', hexDigit (char.toNat / 16), hexDigit (char.toNat % 16)]
  else [char]

def quote (text : String) : String :=
  "\"" ++ String.ofList (text.toList.flatMap escapeChar) ++ "\""

def newline (depth : Nat) : String := "\n" ++ String.ofList (List.replicate (2 * depth) ' ')

/-- Puts the parts between brackets, each on a line of its own. -/
def enclose (opening closing : String) (depth : Nat) (parts : List String) : String :=
  if parts.isEmpty then opening ++ closing
  else
    let separator := "," ++ newline (depth + 1)
    opening ++ newline (depth + 1) ++ separator.intercalate parts ++ newline depth ++ closing

mutual

def printAt (depth : Nat) : Json → String
  | .null => "null"
  | .bool value => if value then "true" else "false"
  | .number value => toString value
  | .string value => quote value
  | .array items => enclose "[" "]" depth (printItems (depth + 1) items)
  | .object fields => enclose "\x7b" "\x7d" depth (printFields (depth + 1) fields)

def printItems (depth : Nat) : List Json → List String
  | [] => []
  | item :: rest => printAt depth item :: printItems depth rest

def printFields (depth : Nat) : List (String × Json) → List String
  | [] => []
  | (name, value) :: rest =>
      (quote name ++ ": " ++ printAt depth value) :: printFields depth rest

end

def print (value : Json) : String := printAt 0 value

end Json

end ObjectMapping
