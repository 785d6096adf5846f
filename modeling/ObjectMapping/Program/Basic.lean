/-
This file reads a whole source file: the declared types, the mappers with their inclusions, and the items
that are carried over into the generated code.
-/

import ObjectMapping.Mapper.Inclusion
import ObjectMapping.Resolution.Resolve

namespace ObjectMapping

open Source

structure Program where
  /-- The tokens of the items other than mappers. -/
  carried : List (List Token)
  host : Host
  mappers : List Mapper
  /-- For each mapper the places of those that it includes. -/
  inclusions : List (List Nat)

namespace Program

/-- The trait of a mapper, if the item is one. -/
def mapperTrait? (item : FileItem) : Option TraitItem :=
  match item.item with
  | .trait declared => if Mapper.isMapper declared then some declared else none
  | _ => none

/-- The program of a source file. What is wrong with the declared types comes before what is wrong with
the mappers, and that before what is wrong with their inclusions. -/
def ofFile (file : SourceFile) : Except (List Problem) Program := do
  let others := file.items.filter fun item => (mapperTrait? item).isNone
  let host ← Host.ofItems (others.map (·.item))
  let mappers ← (Checked.gather
    ((file.items.filterMap mapperTrait?).map (Mapper.ofTrait host))).toExcept
  let inclusions ← Inclusion.resolve mappers
  .ok ⟨others.map (·.carried), host, mappers, inclusions⟩

/-- The mappers that each mapper includes, in the order of inclusion. -/
def included (program : Program) : List (List Mapper) :=
  program.inclusions.map fun places => places.filterMap fun place => program.mappers[place]?

/-- The request of a mapper that includes the given ones. -/
def request (mapper : Mapper) (included : List Mapper) : Request :=
  ⟨mapper.name, mapper.method, mapper.directives, included.map (·.asIncluded)⟩

/-- A mapper with those that it includes and its resolution. -/
structure ResolvedMapper where
  mapper : Mapper
  included : List Mapper
  resolution : Resolution

namespace ResolvedMapper

/-- What is wrong with the declaration, then what is wrong with the mapping. -/
def diagnostics (resolved : ResolvedMapper) : List Diagnostic :=
  resolved.mapper.diagnostics ++ resolved.resolution.diagnostics

def hasErrors (resolved : ResolvedMapper) : Bool := resolved.diagnostics.any (·.isError)

end ResolvedMapper

def resolveMapper (program : Program) (mapper : Mapper) (included : List Mapper) :
    Except (List Problem) ResolvedMapper :=
  match (request mapper included).resolve program.host.schema with
  | .ok resolution => .ok ⟨mapper, included, resolution⟩
  | .error fault => .error [⟨mapper.signature.nameLocation, .fault fault⟩]

/-- Resolves every mapper; malformed requests are reported together, each at its mapping method. -/
def resolve (program : Program) : Except (List Problem) (List ResolvedMapper) :=
  (Checked.gather ((program.mappers.zip program.included).map fun (mapper, included) =>
    program.resolveMapper mapper included)).toExcept

end Program

end ObjectMapping
