/-
This file writes a text as a string literal.
-/

import ObjectMapping.Text.CharClass

namespace ObjectMapping.Source

/-- The shortest form of a character inside a string literal; `next` is the character after it, which
must not be read as part of the escape. -/
def quotedChar (char : Char) (next : Option Char) : String :=
  match char with
  | '\x00' =>
      if next.any fun digit => '0' ≤ digit && digit ≤ '7' then "\\x00" else "\\0"
  | '\t' => "\\t"
  | '\r' => "\\r"
  | '\n' => "\\n"
  | '"' => "\\\""
  | '\\' => "\\\\"
  | char =>
      if Text.isShownByNumber char then
        "\\u\x7b" ++ String.ofList (Nat.toDigits 16 char.toNat) ++ "\x7d"
      else
        char.toString

def quotedChars : List Char → String
  | [] => ""
  | char :: rest => quotedChar char rest.head? ++ quotedChars rest

/-- The string literal that stands for a text. -/
def quoted (text : String) : String := "\"" ++ quotedChars text.toList ++ "\""

end ObjectMapping.Source
