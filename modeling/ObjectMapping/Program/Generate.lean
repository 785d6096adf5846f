/-
This file generates the code for a source file: the items other than mappers as they are, then the code of
each mapper. Every diagnostic that is an error keeps all code from being generated.
-/

import ObjectMapping.Mapper.Spans
import ObjectMapping.Rendering.Mapper

namespace ObjectMapping

open Source

/-- The code generated for a source file. -/
structure GeneratedCode where
  carried : List (List Token)
  mappers : List Rendering.RenderedMapper

namespace GeneratedCode

def lexemes (code : GeneratedCode) : List Lexeme :=
  code.carried.flatMap Rendering.lexemes ++ code.mappers.flatMap (·.code)

def text (code : GeneratedCode) : String := lexemesText code.lexemes

end GeneratedCode

namespace Program

/-- The stretches of text that mappers were read from. -/
def spans (program : Program) : Spans :=
  (program.mappers.flatMap (·.locations)).foldl Spans.record .empty

/-- The problem that a diagnostic makes: at the stretch that goes by its location, or else at the name of the
mapper. -/
def diagnosticProblem (spans : Spans) (mapper : Mapper) (found : Diagnostic) : Problem :=
  ⟨(spans.start? found.location).getD mapper.location, .diagnostic found⟩

/-- The problems that the diagnostics of a mapper make. -/
def diagnosticProblems (spans : Spans) (resolved : ResolvedMapper) : List Problem :=
  (resolved.diagnostics.filter (·.isError)).map (diagnosticProblem spans resolved.mapper)

def generate (program : Program) : Except GenerationFault GeneratedCode := do
  let resolved ← (program.resolve).mapError GenerationFault.problems
  let problems := resolved.flatMap (diagnosticProblems program.spans)
  if problems.isEmpty then
    let mappers ← resolved.mapM (Rendering.renderMapper program.host)
    .ok ⟨program.carried, mappers⟩
  else
    .error (.problems problems)

end Program

/-- The code for a source file. -/
def generate (file : SourceFile) : Except GenerationFault GeneratedCode := do
  let program ← (Program.ofFile file).mapError GenerationFault.problems
  program.generate

end ObjectMapping
