/-
This file reads runs of characters written as hexadecimal numbers, the form in which the tables of
character properties are kept: `AA C0-D6 100-136/2` is one character, a run, and every second
character of a run.
-/

namespace ObjectMapping.Text

/-- The characters from `first` to `last`, `step` apart. -/
structure CodeRange where
  first : Nat
  last : Nat
  step : Nat
  deriving Repr, DecidableEq

def hexDigitValue? (digit : Char) : Option Nat :=
  if '0' ≤ digit ∧ digit ≤ '9' then some (digit.toNat - '0'.toNat)
  else if 'A' ≤ digit ∧ digit ≤ 'F' then some (digit.toNat - 'A'.toNat + 10)
  else if 'a' ≤ digit ∧ digit ≤ 'f' then some (digit.toNat - 'a'.toNat + 10)
  else none

/-- The number that a run of hexadecimal digits stands for. -/
def hexValue (digits : List Char) : Nat :=
  digits.foldl (fun value digit => 16 * value + (hexDigitValue? digit).getD 0) 0

/-- Splits a list at every element that satisfies the test, dropping those elements. -/
def splitOnChars (isSeparator : Char → Bool) : List Char → List (List Char)
  | [] => [[]]
  | char :: rest =>
      if isSeparator char then
        [] :: splitOnChars isSeparator rest
      else
        match splitOnChars isSeparator rest with
        | [] => [[char]]
        | segment :: segments => (char :: segment) :: segments

namespace CodeRange

def contains (range : CodeRange) (code : Nat) : Bool :=
  range.first ≤ code && code ≤ range.last && (code - range.first) % range.step == 0

def read (text : List Char) : CodeRange :=
  let (bounds, step) :=
    match splitOnChars (· == '/') text with
    | [bounds, step] => (bounds, hexValue step)
    | _ => (text, 1)
  match splitOnChars (· == '-') bounds with
  | [first, last] => ⟨hexValue first, hexValue last, step⟩
  | _ => ⟨hexValue bounds, hexValue bounds, 1⟩

def readAll (lines : List String) : List CodeRange :=
  lines.flatMap fun line => (splitOnChars (· == ' ') line.toList).map read

end CodeRange

/-- Whether one of the runs holds the character. -/
def inRanges (ranges : List CodeRange) (char : Char) : Bool :=
  ranges.any (·.contains char.toNat)

end ObjectMapping.Text
