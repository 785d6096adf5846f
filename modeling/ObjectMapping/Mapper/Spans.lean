/-
This file keeps the stretches of a source text that diagnostics can be reported at. A stretch goes by the location
of its start, which is where a problem is shown; of two that start together the first is kept.
-/

import ObjectMapping.Location

namespace ObjectMapping

/-- The stretches that are known, each as its start. -/
structure Spans where
  starts : List Location
  deriving Repr, DecidableEq

namespace Spans

def empty : Spans := ⟨[]⟩

/-- Keeps the stretch that starts at a location, if none does. In a text lines count from one, so that a start is
never without a position. -/
def record (spans : Spans) (start : Location) : Spans :=
  if spans.starts.contains start then spans else ⟨spans.starts ++ [start]⟩

/-- The start of the stretch that goes by a location. -/
def start? (spans : Spans) (location : Location) : Option Location :=
  spans.starts.find? (· == location)

end Spans

end ObjectMapping
