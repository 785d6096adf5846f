/-
This file reports how the mappers of a program are resolved, without code being generated.
-/

import ObjectMapping.Program.Basic

namespace ObjectMapping

structure MapperReport where
  mapper : String
  method : String
  source : String
  destination : String
  plan : Plan
  /-- What is wrong with the declaration, then what is wrong with the mapping. -/
  diagnostics : List Diagnostic
  deriving Repr

def MapperReport.hasErrors (report : MapperReport) : Bool := report.diagnostics.any (·.isError)

structure Report where
  mappers : List MapperReport
  deriving Repr

namespace Report

def hasErrors (report : Report) : Bool := report.mappers.any (·.hasErrors)

def diagnostics (report : Report) : List Diagnostic := report.mappers.flatMap (·.diagnostics)

end Report

namespace Program

/-- The name of one of the two types of a request. -/
def typeName (program : Program) (id : Except Fault TypeId) : String :=
  match id with
  | .ok id => program.host.schema.identOf id
  | .error _ => ""

def mapperReport (program : Program) (resolved : ResolvedMapper) : MapperReport :=
  let asked := request resolved.mapper resolved.included
  { mapper := resolved.mapper.name
    method := resolved.mapper.method.name
    source := program.typeName (asked.sourceParam.map (·.2))
    destination := program.typeName asked.destinationType
    plan := resolved.resolution.plan
    diagnostics := resolved.diagnostics }

/-- The report on all mappers, in the order of declaration. -/
def analyze (program : Program) : Except (List Problem) Report := do
  let resolved ← program.resolve
  .ok ⟨resolved.map program.mapperReport⟩

end Program

/-- The report on the mappers of a source file. -/
def analyze (file : Source.SourceFile) : Except (List Problem) Report := do
  let program ← Program.ofFile file
  program.analyze

end ObjectMapping
