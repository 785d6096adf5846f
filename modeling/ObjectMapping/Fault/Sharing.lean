/-
This file follows several live faults at once. Clones share their causes, so that a cause can belong
to more than one chain; a fault that is used as context is extended in place only if nothing else
refers to it, and enters as a plain note otherwise.
-/

import ObjectMapping.Fault.Basic

namespace ObjectMapping

/-- A cause that knows which one it is. -/
structure SharedCause where
  serial : Nat
  cause : Cause
  deriving Repr, DecidableEq

/-- A fault whose causes may belong to other faults as well. -/
structure LiveFault where
  outermost : SharedCause
  inner : List SharedCause
  deriving Repr, DecidableEq

namespace LiveFault

def causes (fault : LiveFault) : List SharedCause := fault.outermost :: fault.inner

def plain (fault : LiveFault) : Fault := ⟨fault.outermost.cause, fault.inner.map (·.cause)⟩

def message (fault : LiveFault) : String := fault.plain.message

def kind (fault : LiveFault) : CauseKind := fault.outermost.cause.kind

/-- Whether the fault is, or is a cause of, another one. -/
def isWithin (fault other : LiveFault) : Bool :=
  other.causes.any (·.serial == fault.outermost.serial)

end LiveFault

/-- The live faults, the newest first. -/
structure FaultStack where
  faults : List LiveFault
  /-- The serial of the next cause. -/
  next : Nat
  deriving Repr, DecidableEq

inductive FaultStep
  | raise (cause : Cause)
  | clone
  | drop
  | swap
  /-- Adds a note to the newest fault. -/
  | note (message : String)
  /-- Adds the newest fault as context to the one before it. -/
  | context
  deriving Repr, DecidableEq

namespace FaultStack

def empty : FaultStack := ⟨[], 0⟩

/-- The fault `fault` seen within `context`, where `others` are live as well. -/
def within (next : Nat) (fault context : LiveFault) (others : List LiveFault) : LiveFault :=
  if context.inner.isEmpty && !(fault :: others).any context.isWithin then
    ⟨context.outermost, fault.causes⟩
  else
    ⟨⟨next, .note context.message⟩, fault.causes⟩

/-- A step that lacks the faults it needs changes nothing. -/
def step (stack : FaultStack) : FaultStep → FaultStack
  | .raise cause => ⟨⟨⟨stack.next, cause⟩, []⟩ :: stack.faults, stack.next + 1⟩
  | .clone =>
      match stack.faults with
      | [] => stack
      | fault :: rest => ⟨fault :: fault :: rest, stack.next⟩
  | .drop => ⟨stack.faults.tail, stack.next⟩
  | .swap =>
      match stack.faults with
      | first :: second :: rest => ⟨second :: first :: rest, stack.next⟩
      | _ => stack
  | .note message =>
      match stack.faults with
      | [] => stack
      | fault :: rest => ⟨⟨⟨stack.next, .note message⟩, fault.causes⟩ :: rest, stack.next + 1⟩
  | .context =>
      match stack.faults with
      | context :: fault :: rest =>
          ⟨within stack.next fault context rest :: rest, stack.next + 1⟩
      | _ => stack

end FaultStack

end ObjectMapping
