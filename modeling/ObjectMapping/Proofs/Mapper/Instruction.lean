/-
This file takes apart what the statements of a configuration say: each sort of call gives its own instruction,
and a statement that is no call gives none.
-/

import ObjectMapping.Mapper.Instruction
import ObjectMapping.Proofs.Fallible

namespace ObjectMapping.Mapper

open Source

/-- The calls of directives, each with the instruction that it gives. -/
inductive DirectiveCall.Gives (host : Host) (call : DirectiveCall) : Instruction → Prop
  | mapMember (member source : Expression) (name : String) (value : Transform)
      (directive : call.directive = .mapMember) (arguments : call.arguments = [member, source])
      (selected : selector member = .ok name) (taken : transform source = .ok value) :
      Gives host call (.mapMember ⟨name, value, call.location⟩)
  | ignoreMember (member : Expression) (name : String)
      (directive : call.directive = .ignoreMember) (arguments : call.arguments = [member])
      (selected : selector member = .ok name) :
      Gives host call (.ignoreMember ⟨name, call.location⟩)
  | mapSameCollection (member item : Expression) (name : String) (element : Transform)
      (directive : call.directive = .mapCollection) (arguments : call.arguments = [member, item])
      (selected : selector member = .ok name) (taken : transform item = .ok element) :
      Gives host call (.mapCollection ⟨name, none, element, call.location⟩)
  | mapCollection (member source item : Expression) (name : String) (value element : Transform)
      (directive : call.directive = .mapCollection) (arguments : call.arguments = [member, source, item])
      (selected : selector member = .ok name) (taken : transform source = .ok value)
      (alsoTaken : transform item = .ok element) :
      Gives host call (.mapCollection ⟨name, some value, element, call.location⟩)
  | useConstructor (values : List Transform) (directive : call.directive = .useConstructor)
      (taken : call.arguments.mapM transform = .ok values) :
      Gives host call (.chooseConstructor (.arguments values call.location))
  | useEmptyConstructor (directive : call.directive = .useEmptyConstructor)
      (arguments : call.arguments = []) :
      Gives host call (.chooseConstructor (.empty call.location))
  | includeMappers (mappers : Expression) (inclusions : List Inclusion)
      (directive : call.directive = .includeMappers) (arguments : call.arguments = [mappers])
      (named : (elements mappers).mapM inclusion = .ok inclusions) :
      Gives host call (.includeMappers inclusions)
  | mapEnum (source destination : WrittenType) (sourceId destinationId : TypeId)
      (directive : call.directive = .mapEnum) (types : call.typeArguments = [source, destination])
      (found : enumType host source = .ok sourceId) (alsoFound : enumType host destination = .ok destinationId) :
      Gives host call (.mapEnum ⟨sourceId, destinationId, call.location⟩)

theorem mapEnum_gives {host : Host} {call : DirectiveCall} (directive : call.directive = .mapEnum)
    {given : Instruction} (read : Mapper.mapEnum host call = .ok given) : call.Gives host given := by
  unfold Mapper.mapEnum at read
  split at read
  · cases read
  · split at read
    · cases read
    · split at read
      · next source destination types =>
          obtain ⟨sourceId, found, read⟩ := (bind_ok _ _ _).mp read
          obtain ⟨destinationId, alsoFound, same⟩ := (bind_ok _ _ _).mp read
          cases same
          exact .mapEnum source destination sourceId destinationId directive types found alsoFound
      · cases read

/-- Every instruction that is read comes from one of the calls. -/
theorem instructionOfCall_gives {host : Host} {call : DirectiveCall} {given : Instruction}
    (read : instructionOfCall host call = .ok given) : call.Gives host given := by
  unfold instructionOfCall at read
  split at read
  · cases read
  · split at read
    · next member source directive arguments =>
        obtain ⟨name, selected, read⟩ := (bind_ok _ _ _).mp read
        obtain ⟨value, taken, same⟩ := (bind_ok _ _ _).mp read
        cases same
        exact .mapMember member source name value directive arguments selected taken
    · next member directive arguments =>
        obtain ⟨name, selected, same⟩ := (bind_ok _ _ _).mp read
        cases same
        exact .ignoreMember member name directive arguments selected
    · next member item directive arguments =>
        obtain ⟨name, selected, read⟩ := (bind_ok _ _ _).mp read
        obtain ⟨element, taken, same⟩ := (bind_ok _ _ _).mp read
        cases same
        exact .mapSameCollection member item name element directive arguments selected taken
    · next member source item directive arguments =>
        obtain ⟨value, taken, read⟩ := (bind_ok _ _ _).mp read
        obtain ⟨name, selected, read⟩ := (bind_ok _ _ _).mp read
        obtain ⟨element, alsoTaken, same⟩ := (bind_ok _ _ _).mp read
        cases same
        exact .mapCollection member source item name value element directive arguments selected taken alsoTaken
    · next directive =>
        obtain ⟨values, taken, same⟩ := (bind_ok _ _ _).mp read
        cases same
        exact .useConstructor values directive taken
    · next directive arguments =>
        cases read
        exact .useEmptyConstructor directive arguments
    · next mappers directive arguments =>
        obtain ⟨inclusions, named, same⟩ := (bind_ok _ _ _).mp read
        cases same
        exact .includeMappers mappers inclusions directive arguments named
    · next directive => exact mapEnum_gives directive read
    · cases read

/-- The call of a directive that a statement is. -/
def Statement.call? : Statement → Option DirectiveCall
  | .expression _ value _ => DirectiveCall.ofExpression? value
  | .other _ => none

/-- What a statement says: the instruction of the directive that it calls, or that it calls none. -/
inductive Says (host : Host) (statement : Statement) : Instruction → Prop
  | directive (call : DirectiveCall) (given : Instruction) (isCall : Statement.call? statement = some call)
      (gives : call.Gives host given) : Says host statement given
  | nothing (noCall : Statement.call? statement = none) : Says host statement (.none statement.location)

theorem instruction_says {host : Host} {statement : Statement} {given : Instruction}
    (read : instruction host statement = .ok given) : Says host statement given := by
  cases statement with
  | expression tokens value terminated =>
      rw [instruction] at read
      cases found : DirectiveCall.ofExpression? value with
      | some call =>
          rw [found] at read
          exact .directive call given found (instructionOfCall_gives read)
      | none =>
          rw [found] at read
          cases read
          exact .nothing found
  | other =>
      cases read
      exact .nothing rfl

theorem statementLocation_call? (statement : Statement) :
    statementLocation statement = (Statement.call? statement).elim statement.location (·.location) := by
  cases statement with
  | expression tokens value terminated =>
      rw [statementLocation, Statement.call?]
      cases DirectiveCall.ofExpression? value <;> rfl
  | other => rfl

end ObjectMapping.Mapper
