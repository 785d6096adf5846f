/-
This file reads the options on struct fields, of which there is one: `required` says that the member has
to be populated.
-/

import ObjectMapping.Problem
import ObjectMapping.Source.Ahead
import ObjectMapping.Source.Syntax

namespace ObjectMapping.Host

open Source

/-- The attribute that holds the options of a field. -/
def optionAttribute : String := "mapgen"

def optionProblem (location : Location) (problem : OptionProblem) : Problem :=
  ⟨location, .option problem⟩

/-- The location of the first token, or that of the closing bracket. -/
def placeIn (closing : Location) : List Token → Location
  | [] => closing
  | token :: _ => token.location

/-- What follows the further parts of a path, and whether there are any. -/
def afterParts (closing : Location) (hasParts : Bool) :
    List Token → Except Problem (Bool × List Token)
  | first :: second :: rest =>
      if Ahead.isMark "::" (first :: second :: rest) then
        if Ahead.isAnyWord rest then
          match rest with
          | [] => .error (optionProblem closing (.missingPart true))
          | _ :: following => afterParts closing true following
        else
          .error (optionProblem (placeIn closing rest) (.missingPart rest.isEmpty))
      else
        .ok (hasParts, first :: second :: rest)
  | tokens => .ok (hasParts, tokens)

/-- The name of an option, if it is a single word, with its place and what follows. -/
def optionName (closing : Location) (tokens : List Token) :
    Except Problem (Option String × Location × List Token) :=
  let isRooted := Ahead.isMark "::" tokens
  let named := if isRooted then tokens.drop 2 else tokens
  match named with
  | [] => .error (optionProblem closing (.missingName true))
  | word :: rest =>
      if Ahead.isAnyWord named then
        match afterParts closing false rest with
        | .error problem => .error problem
        | .ok (hasParts, following) =>
            .ok (if isRooted || hasParts then none else some word.lexeme.text,
              placeIn closing tokens, following)
      else if Ahead.isLiteral named then
        .error (optionProblem word.location .literalName)
      else
        .error (optionProblem word.location (.missingName false))

/-- Whether the options, or those read before, require the member. -/
def readOptions (closing : Location) (isRequired : Bool) (tokens : List Token) :
    Except Problem Bool :=
  match optionName closing tokens with
  | .error problem => .error problem
  | .ok (name, location, following) =>
      if name != some "required" then .error (optionProblem location .unknownOption)
      else if isRequired then .error (optionProblem location .repeatedRequired)
      else
        match following with
        | [] => .ok true
        | comma :: rest =>
            if Ahead.isMark "," following then
              if rest.isEmpty then .ok true
              else if _shorter : rest.length < tokens.length then
                readOptions closing true rest
              else
                .ok true
            else
              .error (optionProblem comma.location .missingComma)
  termination_by tokens.length

/-- Whether the attributes of a field require the member. -/
def isRequired (isRequiredBefore : Bool) : List Attribute → Except Problem Bool
  | [] => .ok isRequiredBefore
  | first :: rest =>
      if first.isNamed optionAttribute then
        match first.form with
        | .bare => .error (optionProblem first.location .withoutArguments)
        | .value equals => .error (optionProblem equals .withValue)
        | .list [] _ => isRequired isRequiredBefore rest
        | .list arguments closing =>
            match readOptions closing isRequiredBefore arguments with
            | .error problem => .error problem
            | .ok isRequiredNow => isRequired isRequiredNow rest
      else
        isRequired isRequiredBefore rest

end ObjectMapping.Host
