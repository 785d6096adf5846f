/-
This file defines faults: the errors of a malformed schema or request. A fault is a chain of causes,
the outermost first; each context that is added wraps the chain once more.
-/

namespace ObjectMapping

/-- One link of a chain of causes. -/
inductive Cause
  /-- A free message. -/
  | note (message : String)
  | invalidSchema (message : String)
  | unknownType (name : String)
  | invalidRequest (mapper message : String)
  /-- An error of another library: its root message and the contexts added to it, in order. -/
  | external (root : String) (contexts : List String)
  deriving Repr, DecidableEq

/-- The sorts of causes that callers tell apart. -/
inductive CauseKind
  | note
  | invalidSchema
  | unknownType
  | invalidRequest
  | external
  deriving Repr, DecidableEq

namespace Cause

def kind : Cause → CauseKind
  | .note _ => .note
  | .invalidSchema _ => .invalidSchema
  | .unknownType _ => .unknownType
  | .invalidRequest _ _ => .invalidRequest
  | .external _ _ => .external

def message : Cause → String
  | .note message => message
  | .invalidSchema message => s!"invalid schema: {message}"
  | .unknownType name => s!"unknown type `{name}`"
  | .invalidRequest mapper message => s!"invalid mapping request for `{mapper}`: {message}"
  | .external root contexts => contexts.getLastD root

/-- The message of the error of another library that the cause carries. -/
def source? : Cause → Option String
  | .external root contexts => some (contexts.getLastD root)
  | _ => none

end Cause

/-- A chain of causes with its outermost one at the head. -/
structure Fault where
  outermost : Cause
  inner : List Cause
  deriving Repr, DecidableEq

namespace Fault

def ofCause (cause : Cause) : Fault := ⟨cause, []⟩

def invalidSchema (message : String) : Fault := ofCause (.invalidSchema message)

def unknownType (name : String) : Fault := ofCause (.unknownType name)

def invalidRequest (mapper message : String) : Fault := ofCause (.invalidRequest mapper message)

def causes (fault : Fault) : List Cause := fault.outermost :: fault.inner

def kind (fault : Fault) : CauseKind := fault.outermost.kind

/-- The messages of the whole chain, the outermost first. -/
def message (fault : Fault) : String := ": ".intercalate (fault.causes.map (·.message))

/-- The fault seen from a caller that adds a cause of its own. -/
def within (fault : Fault) (context : Cause) : Fault := ⟨context, fault.causes⟩

end Fault

end ObjectMapping
