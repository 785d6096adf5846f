/-
This file proves which names in generated code can meet: those of the conversions of enums stay apart from
each other and from the constructor, and so do the names of the mappers as they are written.
-/

import ObjectMapping.Proofs.EnumNaming
import ObjectMapping.Proofs.Program.Rendered
import ObjectMapping.Proofs.Resolution.EnumCalls

namespace ObjectMapping

open Rendering Source

/-- The name that an identifier stands for, to which the sign of raw identifiers does not belong. -/
def plainName (name : String) : String := String.ofList (withoutRaw name.toList)

theorem plainName_prefixed (rest : String) : plainName ("map_" ++ rest) = "map_" ++ rest := by
  have notRaw : withoutRaw ("map_" ++ rest).toList = ("map_" ++ rest).toList := by
    rw [String.toList_append]
    rfl
  rw [plainName, notRaw, String.ofList_toList]

namespace Rendering.RenderedMapper

/-- What is known of the names of the functions in the code for a mapper. -/
structure NamesFunctions (rendered : RenderedMapper) : Prop where
  /-- The conversions of enums have names of their own that start alike. -/
  conversions : (rendered.conversions.map (·.name)).Nodup
  prefixed : ∀ conversion ∈ rendered.conversions, ∃ rest, conversion.name = "map_" ++ rest
  /-- No two functions are named alike unless the mapping method is named like one of the others. -/
  apart : (rendered.functionNames.map plainName).Nodup ↔
    plainName rendered.signature.name ∉ "new" :: rendered.conversions.map (·.name)

theorem namesFunctions_of_conversions {rendered : RenderedMapper}
    (distinct : (rendered.conversions.map (·.name)).Nodup)
    (prefixed : ∀ conversion ∈ rendered.conversions, ∃ rest, conversion.name = "map_" ++ rest) :
    rendered.NamesFunctions := by
  refine ⟨distinct, prefixed, ?_⟩
  have plain : (rendered.conversions.map (·.name)).map plainName = rendered.conversions.map (·.name) := by
    rw [List.map_map]
    refine List.map_congr_left fun conversion present => ?_
    obtain ⟨rest, named⟩ := prefixed conversion present
    rw [Function.comp_apply, named, plainName_prefixed]
  have notNew : "new" ∉ rendered.conversions.map (·.name) := by
    intro isNew
    obtain ⟨conversion, present, same⟩ := List.mem_map.mp isNew
    obtain ⟨rest, named⟩ := prefixed conversion present
    have sameText := congrArg String.toList (same.symm.trans named)
    rw [String.toList_append] at sameText
    cases sameText
  rw [functionNames, List.map_cons, List.map_cons, plain]
  change ("new" :: plainName rendered.signature.name :: rendered.conversions.map (·.name)).Nodup ↔ _
  rw [List.nodup_cons, List.nodup_cons, List.mem_cons, List.mem_cons, not_or, not_or, and_iff_left distinct,
    and_iff_left notNew]
  exact and_congr_left' ne_comm

end Rendering.RenderedMapper

/-- The functions of a plan have names of their own that start alike. -/
theorem Request.resolve_functionNames {schema : Schema} {request : Request} {resolution : Resolution}
    (resolved : request.resolve schema = .ok resolution) : (resolution.plan.enumFunctions.map (·.name)).Nodup ∧
      ∀ function ∈ resolution.plan.enumFunctions, ∃ rest, function.name = "map_" ++ rest := by
  obtain ⟨task, _, rfl⟩ := (request.resolve_ok schema resolution).mp resolved
  obtain ⟨keys, needs⟩ := task.resolve_needs
  refine ⟨MappingTask.enumFunctions_distinct needs, ?_⟩
  have prefixed := EnumRegistry.registerAll_prefixed task.schema
    (task.request.directives.enums.filterMap task.pairKey? ++ keys)
  rwa [← MappingTask.enumFunctions_registered needs] at prefixed

theorem Rendering.RenderedMapper.IsOf.namesFunctions {rendered : RenderedMapper} {host : Host}
    {mapper : Mapper} {included : List Mapper} {resolution : Resolution}
    (isOf : rendered.IsOf host ⟨mapper, included, resolution⟩)
    (resolved : (Program.request mapper included).resolve host.schema = .ok resolution) :
    rendered.NamesFunctions := by
  obtain ⟨distinct, prefixed⟩ := Request.resolve_functionNames resolved
  refine RenderedMapper.namesFunctions_of_conversions ?_ ?_
  · rw [isOf.conversions, List.map_map]
    exact distinct
  · rw [isOf.conversions, List.forall_mem_map]
    exact prefixed

namespace GeneratedCode

/-- The names of the generated structs as they stand for types. -/
def structNames (code : GeneratedCode) : List String := code.mappers.map fun mapper => plainName mapper.name

/-- The names of the generated structs and traits, which are all types. -/
def typeNames (code : GeneratedCode) : List String :=
  code.structNames ++ code.mappers.map (·.traitName)

/-- Traits are told apart as their mappers are, so that only a struct and a trait can still be named alike. -/
theorem typeNames_nodup (code : GeneratedCode) : code.typeNames.Nodup ↔
    code.structNames.Nodup ∧ ∀ first ∈ code.mappers, ∀ second ∈ code.mappers,
      plainName first.name ≠ second.traitName := by
  have traitNames : code.mappers.map (·.traitName) = code.structNames.map (· ++ "Ext") := by
    rw [structNames, List.map_map]
    rfl
  have extended : Function.Injective fun name : String => name ++ "Ext" := by
    intro first second same
    have sameText := congrArg String.toList same
    rw [String.toList_append, String.toList_append] at sameText
    exact String.toList_inj.mp (List.append_cancel_right sameText)
  have alike : (code.mappers.map (·.traitName)).Nodup ↔ code.structNames.Nodup := by
    rw [traitNames, List.nodup_map_iff extended]
  rw [typeNames, List.nodup_append, alike]
  simp only [structNames, List.forall_mem_map]
  tauto

end GeneratedCode

/-- Functions in the code for one mapper are named alike only if the mapping method is named like the
constructor or like a conversion of enums. Mappers are never named alike as they are written, so that types are
named alike only through the sign of raw identifiers or if a mapper is named like the trait of another. -/
theorem generate_names {file : SourceFile} {code : GeneratedCode} (generated : generate file = .ok code) :
    (∀ mapper ∈ code.mappers, mapper.NamesFunctions) ∧ (code.mappers.map (·.name)).Nodup ∧
      (code.typeNames.Nodup ↔ ∀ first ∈ code.mappers, ∀ second ∈ code.mappers,
        (plainName first.name = plainName second.name → first.name = second.name) ∧
          plainName first.name ≠ second.traitName) := by
  obtain ⟨program, read, renders⟩ := generate_ok generated
  have distinct : (code.mappers.map (·.name)).Nodup := by
    have sameNames : code.mappers.map (·.name) = program.mappers.map (·.name) := by
      rw [← List.forall₂_eq_eq_eq, List.forall₂_map_left_iff, List.forall₂_map_right_iff]
      exact renders.flip.imp fun rendered mapper ⟨_, _, _, _, _, isOf⟩ => isOf.name
    rw [sameNames]
    exact (Program.ofFile_includes read).1
  have structNames : code.structNames.Nodup ↔ ∀ first ∈ code.mappers, ∀ second ∈ code.mappers,
      plainName first.name = plainName second.name → first.name = second.name := by
    have plain : code.structNames = (code.mappers.map (·.name)).map plainName := by rw [List.map_map]; rfl
    rw [plain, List.nodup_map_iff_inj_on distinct]
    simp only [List.forall_mem_map]
  refine ⟨fun rendered isRendered => ?_, distinct, ?_⟩
  · obtain ⟨mapper, _, included, resolution, _, _, resolved, isOf⟩ := forall₂_right renders rendered isRendered
    exact isOf.namesFunctions resolved
  · rw [code.typeNames_nodup, structNames]
    simp only [← forall_and]

/-- A mapper that converts an enum, with the given mapping method. -/
def relayText (method : String) : String :=
  "#[mapper] trait Relay \x7b fn " ++ method ++ "(source: &Source) -> Target; \x7d " ++
    "enum Mode \x7b Plain \x7d enum Kind \x7b Plain \x7d " ++
    "struct Source \x7b pub kind: Mode \x7d struct Target \x7b pub kind: Kind \x7d"

/-- The functions in the code for each mapper by their names. -/
def GeneratedCode.functionNames (code : GeneratedCode) : List (List String) := code.mappers.map (·.functionNames)

/-- The functions of the relay have names of their own. -/
theorem generate_names_relay : ∃ file code, SourceFile.ofText (relayText "relay") = .ok file ∧
    generate file = .ok code ∧ code.functionNames = [["new", "relay", "map_to_kind"]] ∧
      (∀ mapper ∈ code.mappers, mapper.NamesFunctions) ∧ (code.mappers.map (·.name)).Nodup ∧
        (code.typeNames.Nodup ↔ ∀ first ∈ code.mappers, ∀ second ∈ code.mappers,
          (plainName first.name = plainName second.name → first.name = second.name) ∧
            plainName first.name ≠ second.traitName) := by
  have named : passes (fun file => passes (fun code =>
      decide (code.functionNames = [["new", "relay", "map_to_kind"]])) (generate file))
      (SourceFile.ofText (relayText "relay")) = true := by
    have chars : CharsOf (relayText "relay") _ := .append (.append (.append (.append (.literal _) _) _) _) _
    rw [SourceFile.ofText_chars chars]
    decide +kernel
  obtain ⟨file, read, named⟩ := passes_iff.mp named
  obtain ⟨code, generated, named⟩ := passes_iff.mp named
  exact ⟨file, code, read, generated, of_decide_eq_true named, generate_names generated⟩

/-- A conversion of enums can get the name of the mapping method. -/
theorem generate_repeatsName : ¬∀ (text : String) (file : SourceFile) (code : GeneratedCode),
    SourceFile.ofText text = .ok file → generate file = .ok code →
      (∀ names ∈ code.functionNames, names.Nodup) ∧ code.typeNames.Nodup := by
  have repeated : passes (fun file => passes (fun code =>
      decide (code.functionNames = [["new", "map_to_kind", "map_to_kind"]])) (generate file))
      (SourceFile.ofText (relayText "map_to_kind")) = true := by
    have chars : CharsOf (relayText "map_to_kind") _ := .append (.append (.append (.append (.literal _) _) _) _) _
    rw [SourceFile.ofText_chars chars]
    decide +kernel
  obtain ⟨file, read, repeated⟩ := passes_iff.mp repeated
  obtain ⟨code, generated, repeated⟩ := passes_iff.mp repeated
  intro distinct
  have apart := (distinct _ file code read generated).1 ["new", "map_to_kind", "map_to_kind"]
    (of_decide_eq_true repeated ▸ by decide)
  exact absurd apart (by decide)

end ObjectMapping
