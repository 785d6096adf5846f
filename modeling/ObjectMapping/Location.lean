/-
This file defines positions in a source text.
-/

namespace ObjectMapping

/-- A position; lines count from one and columns from zero. -/
structure Location where
  line : Nat
  column : Nat
  deriving Repr, DecidableEq, Inhabited

namespace Location

/-- The position of what was not read from a source text. -/
def unknown : Location := ⟨0, 0⟩

/-- The position given to a problem that has none in the source text. -/
def startOfText : Location := ⟨1, 0⟩

def text (location : Location) : String := s!"{location.line}:{location.column}"

end Location

end ObjectMapping
