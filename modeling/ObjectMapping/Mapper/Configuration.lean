/-
This file collects the instructions of a mapper's configuration. The constructor can be chosen once.
-/

import ObjectMapping.Mapper.Instruction

namespace ObjectMapping.Mapper

open Source

structure Configuration where
  directives : Directives
  inclusions : List Inclusion
  diagnostics : List Diagnostic
  /-- Where the statements and the value expressions in them stand. -/
  locations : List Location

namespace Configuration

def empty : Configuration := ⟨.none, [], [], []⟩

def choiceLocation : ConstructorChoice → Location
  | .empty location => location
  | .arguments _ location => location

def add (mapper : String) (configuration : Configuration) :
    Instruction → Except Problem Configuration
  | .mapMember directive =>
      .ok { configuration with directives.mapMembers := configuration.directives.mapMembers ++ [directive] }
  | .ignoreMember directive =>
      .ok { configuration with directives.ignores := configuration.directives.ignores ++ [directive] }
  | .mapCollection directive =>
      .ok { configuration with
        directives.collections := configuration.directives.collections ++ [directive] }
  | .chooseConstructor choice =>
      if configuration.directives.constructor.isSome then
        .error ⟨choiceLocation choice, .directive .repeatedConstructor⟩
      else
        .ok { configuration with directives.constructor := some choice }
  | .includeMappers inclusions =>
      .ok { configuration with inclusions := configuration.inclusions ++ inclusions }
  | .mapEnum directive =>
      .ok { configuration with directives.enums := configuration.directives.enums ++ [directive] }
  | .none location =>
      .ok { configuration with
        diagnostics :=
          configuration.diagnostics ++ [.error location (.invalidConstructorStatement mapper)] }

/-- Keeps where a statement stands that gives an instruction. -/
def locate (configuration : Configuration) (statement : Statement) (given : Instruction) : Configuration :=
  { configuration with
    locations := configuration.locations ++ statementLocation statement :: given.transforms.map (·.location) }

/-- The configuration extended by one statement; a statement with a problem adds nothing else. -/
def addStatement (host : Host) (mapper : String) (checked : Checked Configuration)
    (statement : Statement) : Checked Configuration :=
  match (instruction host statement).bind fun given =>
      add mapper (checked.value.locate statement given) given with
  | .ok extended => { checked with value := extended }
  | .error problem => { checked with problems := checked.problems ++ [problem] }

/-- The configuration that the statements give, in their order. -/
def ofStatements (host : Host) (mapper : String) (statements : List Statement) :
    Checked Configuration :=
  statements.foldl (addStatement host mapper) ⟨empty, []⟩

end Configuration

end ObjectMapping.Mapper
