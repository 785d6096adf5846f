/-
This file names the kinds of phrases that can stand inside each other. A grammar gives a reader for
each kind; the readers of the next files are built over a grammar that serves for the phrases inside.
-/

import ObjectMapping.Source.Reader
import ObjectMapping.Source.Syntax

namespace ObjectMapping.Source

/-- How tightly an operator binds, the loosest first. -/
inductive Precedence
  | lowest
  | assign
  | range
  | or
  | and
  | compare
  | bitOr
  | bitXor
  | bitAnd
  | shift
  | sum
  | product
  | cast
  deriving Repr, DecidableEq

def Precedence.rank (precedence : Precedence) : Nat := precedence.ctorIdx

inductive BoundForm
  | lifetime
  | trait
  /-- The list of generic parameters that an opaque type can use. -/
  | capture
  | other
  deriving Repr, DecidableEq

structure Grammar where
  /-- A type; a sum of bounds without a keyword in front is not possible everywhere. -/
  type : (allowsSum : Bool) → Reader WrittenType
  bound : (allowsCapture allowsConst : Bool) → Reader BoundForm
  /-- An expression; a struct literal is not possible where a block follows. -/
  expression : (allowsStruct : Bool) → Reader Expression
  /-- An expression without binary operators outside brackets. -/
  operand : (allowsStruct : Bool) → Reader Expression
  /-- An expression in a statement or as the body of an arm, which a block can end. -/
  ending : Reader Expression
  /-- What follows a left operand, as far as it binds at least as tightly as the precedence says. -/
  operation : (allowsStruct : Bool) → Precedence → Expression → Reader Expression
  /-- A pattern without alternatives outside brackets. -/
  pattern : Reader Pattern
  /-- The statements that fill a block. -/
  statements : Reader (List Statement)
  item : Reader Item
  /-- An import tree; it says whether a nested tree starts with two colons. -/
  useTree : (allowsRoot : Bool) → Reader Bool

namespace Grammar

/-- The grammar that refuses everything. -/
def none : Grammar where
  type _ := Reader.refuse "type"
  bound _ _ := Reader.refuse "bound"
  expression _ := Reader.refuse "an expression"
  operand _ := Reader.refuse "an expression"
  ending := Reader.refuse "an expression"
  operation _ _ _ := Reader.refuse "an expression"
  pattern := Reader.refuse "pattern"
  statements := Reader.refuse "statement"
  item := Reader.refuse "item"
  useTree _ := Reader.refuse "import"

end Grammar

end ObjectMapping.Source
