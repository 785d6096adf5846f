/-
This file reads literals off the front of a text: numbers, characters, and strings in their plain, raw,
byte and zero-ended forms. Each reader answers with what follows the literal, or with nothing where
the text does not start with one.
-/

import ObjectMapping.Text.CharClass

namespace ObjectMapping.Source

open Text

/-- What follows a word without a prefix. -/
def afterWord? : List Char → Option (List Char)
  | [] => none
  | char :: rest =>
      if isIdentifierStart char then some (rest.dropWhile isIdentifierContinue) else none

/-- What follows the suffix of a literal; a suffix is a word that comes at once. -/
def afterSuffix (text : List Char) : List Char := (afterWord? text).getD text

namespace Literal

/-- The rules for the characters of one sort of string. -/
structure Dialect where
  /-- Whether characters above the seven-bit ones can stand in the string. -/
  wideChars : Bool
  /-- Whether `\x` can name a code above 127. -/
  largeCodes : Bool
  /-- Whether `\u` can name a character. -/
  wideEscapes : Bool
  /-- Whether the character with code zero can occur. -/
  zero : Bool

def text : Dialect := ⟨true, false, true, true⟩

def bytes : Dialect := ⟨false, true, false, true⟩

def zeroEnded : Dialect := ⟨true, true, true, false⟩

namespace Dialect

def admits (dialect : Dialect) (char : Char) : Bool :=
  (dialect.wideChars || isSevenBit char) && (dialect.zero || char != '\x00')

/-- Whether the two digits make a code that `\x` can name. -/
def admitsCode (dialect : Dialect) (first second : Char) : Bool :=
  match hexDigitValue? first, hexDigitValue? second with
  | some high, some low =>
      (dialect.largeCodes || high < 8) && (dialect.zero || 0 < high + low)
  | _, _ => false

def admitsValue (dialect : Dialect) (value : Nat) : Bool :=
  value.isValidChar && (dialect.zero || 0 < value)

end Dialect

/-- What follows the digits and the closing brace of `\u`; there are one to six digits, and underscores
after the first. -/
def afterWideCode? (dialect : Dialect) (count value : Nat) : List Char → Option (List Char)
  | [] => none
  | char :: rest =>
      match hexDigitValue? char with
      | some digit =>
          if count < 6 then afterWideCode? dialect (count + 1) (16 * value + digit) rest else none
      | none =>
          if count = 0 then none
          else if char = '_' then afterWideCode? dialect count value rest
          else if char = '\x7d' ∧ dialect.admitsValue value then some rest
          else none

/-- What follows an escape whose backslash has been read. -/
def afterEscape? (dialect : Dialect) : List Char → Option (List Char)
  | 'x' :: first :: second :: rest => if dialect.admitsCode first second then some rest else none
  | 'u' :: '\x7b' :: rest => if dialect.wideEscapes then afterWideCode? dialect 0 0 rest else none
  | char :: rest =>
      if ['n', 'r', 't', '\\', '\x27', '"'].contains char || (dialect.zero && char == '0') then
        some rest
      else
        none
  | [] => none

/-- What follows the blanks at a line end inside a string; a carriage return needs its line feed. -/
def afterLineEnd? : List Char → Option (List Char)
  | [] => none
  | '\r' :: '\n' :: rest => afterLineEnd? rest
  | '\r' :: _ => none
  | char :: rest =>
      if char = ' ' ∨ char = '\t' ∨ char = '\n' then afterLineEnd? rest else some (char :: rest)

def isLineEnd (char : Char) : Bool := char == '\n' || char == '\r'

/-- What follows an escape in a string, where a line end can be escaped as well. -/
def afterStringEscape? (dialect : Dialect) (rest : List Char) : Option (List Char) :=
  if rest.head?.any isLineEnd then afterLineEnd? rest else afterEscape? dialect rest

/-- What follows the closing quote of a string whose opening quote has been read. -/
def afterString? (dialect : Dialect) : List Char → Option (List Char)
  | [] => none
  | '"' :: rest => some rest
  | '\r' :: '\n' :: rest => afterString? dialect rest
  | '\r' :: _ => none
  | '\\' :: escaped =>
      match afterStringEscape? dialect escaped with
      | some rest =>
          if _shorter : rest.length ≤ escaped.length then afterString? dialect rest else none
      | none => none
  | char :: rest => if dialect.admits char then afterString? dialect rest else none
  termination_by text => text.length
  decreasing_by all_goals simp only [List.length_cons]; omega

/-- What follows a number of `#` signs. -/
def afterHashes? : Nat → List Char → Option (List Char)
  | 0, rest => some rest
  | count + 1, '#' :: rest => afterHashes? count rest
  | _ + 1, _ => none

/-- What follows the closing quote, with its `#` signs, of a raw string. -/
def afterRawBody? (dialect : Dialect) (hashes : Nat) : List Char → Option (List Char)
  | [] => none
  | '\r' :: '\n' :: rest => afterRawBody? dialect hashes rest
  | '\r' :: _ => none
  | '"' :: rest =>
      match afterHashes? hashes rest with
      | some following => some following
      | none => afterRawBody? dialect hashes rest
  | char :: rest => if dialect.admits char then afterRawBody? dialect hashes rest else none

/-- What follows a raw string whose `r` has been read; at most 255 `#` signs enclose it. -/
def afterRaw? (dialect : Dialect) (opened : List Char) : Option (List Char) :=
  let hashes := (opened.takeWhile (· == '#')).length
  match opened.dropWhile (· == '#') with
  | '"' :: rest => if hashes ≤ 255 then afterRawBody? dialect hashes rest else none
  | _ => none

/-- What follows a single character whose opening apostrophe has been read. -/
def afterChar? (dialect : Dialect) (opened : List Char) : Option (List Char) :=
  let closing :=
    match opened with
    | '\\' :: escaped => afterEscape? dialect escaped
    | char :: rest => if dialect.admits char then some rest else none
    | [] => none
  match closing with
  | some ('\x27' :: rest) => some rest
  | _ => none

/-- What follows a literal in quotes. -/
def afterQuoted? : List Char → Option (List Char)
  | '"' :: rest => afterString? text rest
  | 'r' :: rest => afterRaw? text rest
  | 'b' :: '"' :: rest => afterString? bytes rest
  | 'b' :: 'r' :: rest => afterRaw? bytes rest
  | 'b' :: '\x27' :: rest => afterChar? bytes rest
  | 'c' :: '"' :: rest => afterString? zeroEnded rest
  | 'c' :: 'r' :: rest => afterRaw? zeroEnded rest
  | '\x27' :: rest => afterChar? text rest
  | _ => none

def isDigitOrUnderscore (char : Char) : Bool := isDecimalDigit char || char == '_'

/-- What follows the exponent of a number whose `e` has been read; it has at most one sign, in front of
its digits. -/
def afterExponent? (signed valued : Bool) : List Char → Option (List Char)
  | [] => if valued then some [] else none
  | char :: rest =>
      if char = '+' ∨ char = '-' then
        if valued then some (char :: rest)
        else if signed then none
        else afterExponent? true valued rest
      else if isDecimalDigit char then afterExponent? signed true rest
      else if char = '_' then afterExponent? signed valued rest
      else if valued then some (char :: rest)
      else none

def isExponentMark (char : Char) : Bool := char == 'e' || char == 'E'

/-- What follows a number with a point or an exponent. A point before a second point or a word belongs
to what comes after the number. -/
def afterFraction? (text : List Char) : Option (List Char) :=
  if !text.head?.any isDecimalDigit then none
  else
    match text.dropWhile isDigitOrUnderscore with
    | '.' :: rest =>
        if rest.head?.any fun char => char == '.' || isIdentifierStart char then none
        else
          match rest.dropWhile isDigitOrUnderscore with
          | [] => some []
          | char :: following =>
              if isExponentMark char then
                some ((afterExponent? false false following).getD (char :: following))
              else
                some (char :: following)
    | char :: rest => if isExponentMark char then afterExponent? false false rest else none
    | [] => none

/-- What follows the digits of a whole number; letters above the base end it. -/
def afterDigits? (base : Nat) (isEmpty : Bool) : List Char → Option (List Char)
  | [] => if isEmpty then none else some []
  | char :: rest =>
      if char = '_' then
        if isEmpty ∧ base = 10 then none else afterDigits? base isEmpty rest
      else
        match hexDigitValue? char with
        | some value =>
            if value < base then afterDigits? base false rest
            else if isEmpty ∨ isDecimalDigit char then none
            else some (char :: rest)
        | none => if isEmpty then none else some (char :: rest)

def afterWhole? : List Char → Option (List Char)
  | '0' :: 'x' :: rest => afterDigits? 16 true rest
  | '0' :: 'o' :: rest => afterDigits? 8 true rest
  | '0' :: 'b' :: rest => afterDigits? 2 true rest
  | text => afterDigits? 10 true text

/-- What follows the suffix of a number, which nothing that continues a word can follow. -/
def afterNumberSuffix? (text : List Char) : Option (List Char) :=
  let rest := afterSuffix text
  if rest.head?.any isIdentifierContinue then none else some rest

def afterNumber? (text : List Char) : Option (List Char) :=
  match (afterFraction? text).bind afterNumberSuffix? with
  | some rest => some rest
  | none => (afterWhole? text).bind afterNumberSuffix?

end Literal

/-- What follows a literal. -/
def afterLiteral? (text : List Char) : Option (List Char) :=
  match Literal.afterQuoted? text with
  | some rest => some (afterSuffix rest)
  | none => Literal.afterNumber? text

end ObjectMapping.Source
