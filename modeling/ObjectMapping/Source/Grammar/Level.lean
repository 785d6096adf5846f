/-
This file ties the readers of phrases together. A phrase of level `n` holds phrases of lower levels only;
every phrase of a list of tokens has a level below a multiple of its length, so the level bounds no
program.
-/

import ObjectMapping.Source.Grammar.Item
import ObjectMapping.Source.Grammar.Statement

namespace ObjectMapping.Source

namespace Grammar

/-- The grammar whose phrases hold phrases of the given one. -/
def above (inner : Grammar) : Grammar where
  type := Source.type inner
  bound := Source.bound inner
  expression := Source.expression inner
  operand := Source.operand inner
  ending := Source.ending inner
  operation := Source.operation inner
  pattern := Source.pattern inner
  statements := Source.statements inner
  item := Source.item inner
  useTree := Source.useTree inner

def level : Nat → Grammar
  | 0 => none
  | depth + 1 => above (level depth)

/-- The grammar for a list of tokens of this length. -/
def forLength (length : Nat) : Grammar := level (3 * length + 8)

end Grammar

end ObjectMapping.Source
