/-
This file reads source files and single expressions.
-/

import ObjectMapping.Source.Grammar.Level
import ObjectMapping.Source.Scan

namespace ObjectMapping.Source

open Reader

/-- An item in both its forms: as it is read, and as it is written out without options on fields. -/
def fileItem (grammar : Grammar) : Reader FileItem := do
  let start ← get
  set { start with keepsOptions := false }
  let (carried, _) ← withhold grammar.item
  set { start with keepsOptions := true }
  let found ← grammar.item
  return ⟨found, carried⟩

namespace SourceFile

def ofTokens (tokens : List Token) : Except SyntaxFault SourceFile := do
  let grammar := Grammar.forLength tokens.length
  let (_, items) ← Reader.run (do
    let _ ← innerAttributes grammar
    untilEnd (fileItem grammar)) true tokens
  return ⟨items⟩

/-- The source file with this text. -/
def ofText (text : String) : Except SyntaxFault SourceFile :=
  match scanFile text with
  | some tokens => ofTokens tokens
  | none => .error .noTokens

/-- The source file with this text, of which no first line is set apart. -/
def ofPlainText (text : String) : Except SyntaxFault SourceFile :=
  match scan text.toList with
  | some tokens => ofTokens tokens
  | none => .error .noTokens

end SourceFile

/-- The tokens of an expression as they are written out again. -/
def expressionTokens (text : String) : Except SyntaxFault (List Token) :=
  match scan text.toList with
  | some tokens =>
      (Reader.run ((Grammar.forLength tokens.length).expression true) true tokens).map (·.1)
  | none => .error .noTokens

end ObjectMapping.Source
