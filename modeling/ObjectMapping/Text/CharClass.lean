/-
This file holds the character classes that names, words and source tokens are built from. Each class
is a short test on the seven-bit characters and a table look-up above them.
-/

import ObjectMapping.Text.CharTable

namespace ObjectMapping.Text

def isSevenBit (char : Char) : Bool := char.toNat < 128

def isDecimalDigit (char : Char) : Bool := '0' ≤ char && char ≤ '9'

def isSmallLetter (char : Char) : Bool := 'a' ≤ char && char ≤ 'z'

def isCapitalLetter (char : Char) : Bool := 'A' ≤ char && char ≤ 'Z'

def isBasicLetter (char : Char) : Bool := isSmallLetter char || isCapitalLetter char

def isUppercase (char : Char) : Bool :=
  if isSevenBit char then isCapitalLetter char else inRanges CharTable.uppercase char

def isLowercase (char : Char) : Bool :=
  if isSevenBit char then isSmallLetter char else inRanges CharTable.lowercase char

/-- Letters that come in two cases: uppercase, lowercase and titlecase characters. -/
def isCased (char : Char) : Bool :=
  isUppercase char || isLowercase char || inRanges CharTable.titlecase char

/-- Characters that do not count when the neighbours of a letter are looked at: marks, apostrophes
and other signs inside a word. -/
def isCaseIgnorable (char : Char) : Bool :=
  if isSevenBit char then ['\'', '.', ':', '^', '\x60'].contains char
  else inRanges CharTable.caseIgnorable char

/-- Letters of any script and digits of any script; a name is cut at every other character. -/
def isAlphanumeric (char : Char) : Bool :=
  if isSevenBit char then isBasicLetter char || isDecimalDigit char
  else
    inRanges CharTable.letters char || inRanges CharTable.alphabeticExtras char ||
      inRanges CharTable.decimals char || inRanges CharTable.otherNumbers char

/-- Characters that make up words when text is searched for whole words. -/
def isWordChar (char : Char) : Bool :=
  if isSevenBit char then isBasicLetter char || isDecimalDigit char || char == '_'
  else
    inRanges CharTable.letters char || inRanges CharTable.marks char ||
      inRanges CharTable.decimals char || inRanges CharTable.wordExtras char

/-- Characters that an identifier starts with. -/
def isIdentifierStart (char : Char) : Bool :=
  if isSevenBit char then isBasicLetter char || char == '_'
  else
    (inRanges CharTable.letters char && !inRanges CharTable.identifierStartExceptions char) ||
      inRanges CharTable.identifierStartExtras char

/-- Characters that an identifier goes on with. -/
def isIdentifierContinue (char : Char) : Bool :=
  if isSevenBit char then isBasicLetter char || isDecimalDigit char || char == '_'
  else
    ((inRanges CharTable.letters char || inRanges CharTable.marks char ||
        inRanges CharTable.decimals char) && !inRanges CharTable.identifierExceptions char) ||
      inRanges CharTable.identifierExtras char

/-- White space between source tokens; the two direction marks count as well. -/
def isBlank (char : Char) : Bool :=
  if isSevenBit char then char == ' ' || ('\t' ≤ char && char ≤ '\r')
  else inRanges CharTable.blanks char || char == '\u200E' || char == '\u200F'

/-- Characters that a string literal shows by their number. -/
def isShownByNumber (char : Char) : Bool :=
  if isSevenBit char then char.toNat < 32 || char.toNat == 127
  else inRanges CharTable.escaped char

end ObjectMapping.Text
