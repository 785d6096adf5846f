/-
This file resolves requests: enum pairs of the user first, then the constructor, then the members.
A problem of a well-formed request is a diagnostic next to a plan that may be partial; only a
malformed request is refused.
-/

import ObjectMapping.Resolution.Constructors
import ObjectMapping.Resolution.Members

namespace ObjectMapping

structure Resolution where
  plan : Plan
  diagnostics : List Diagnostic
  deriving Repr

def Resolution.hasErrors (resolution : Resolution) : Bool := resolution.diagnostics.any (·.isError)

namespace MappingTask

/-- Registers the function of an enum pair, or reports the variants that stand in the way. -/
def registerPair (task : MappingTask) (registry : EnumRegistry) (pair : MapEnum) :
    EnumRegistry × Option Diagnostic :=
  match task.schema.variants? pair.source, task.schema.variants? pair.destination with
  | some sourceVariants, some destinationVariants =>
      let missing := TypeRelation.missingVariants sourceVariants destinationVariants
      if missing.isEmpty then
        ((registry.register task.schema ⟨pair.source, pair.destination, false, false⟩).1, none)
      else
        (registry, some (.error pair.location (.enumPairMismatch (task.schema.identOf pair.source)
          (task.schema.identOf pair.destination) missing)))
  | _, _ => (registry, none)

def registerPairs (task : MappingTask) (registry : EnumRegistry) :
    List MapEnum → EnumRegistry × List Diagnostic
  | [] => (registry, [])
  | pair :: rest =>
      let (extended, diagnostic) := task.registerPair registry pair
      let (final, diagnostics) := task.registerPairs extended rest
      (final, diagnostic.toList ++ diagnostics)

def resolve (task : MappingTask) : Resolution :=
  let (paired, pairDiagnostics) := task.registerPairs .empty task.request.directives.enums
  let (fed, constructor) := task.resolveConstructor paired
  let (final, members) :=
    task.resolveMembers constructor.claimed fed task.destinationStruct.members
  { plan :=
      { constructor := constructor.plan
        state := constructor.state
        assignments := members.filterMap (·.assignment?)
        outcomes := members.map (·.outcome)
        enumFunctions := final.functions }
    diagnostics :=
      pairDiagnostics ++ constructor.diagnostics ++ members.filterMap (·.verdict.diagnostic?) }

end MappingTask

/-- The plan for a request, unless the request is malformed. -/
def Request.resolve (request : Request) (schema : Schema) : Except Fault Resolution :=
  (request.toTask schema).map (·.resolve)

end ObjectMapping
