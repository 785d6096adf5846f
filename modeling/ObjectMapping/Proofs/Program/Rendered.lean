/-
This file takes generated code apart: each mapper of a program is rendered with those that it includes and
with its own plan.
-/

import ObjectMapping.Program.Generate
import ObjectMapping.Proofs.Mapper.Inclusion
import ObjectMapping.Proofs.Program.Basic
import ObjectMapping.Proofs.Rendering.Parts

namespace ObjectMapping

open Rendering

namespace Rendering

/-- The code for a resolved mapper, part by part. -/
structure RenderedMapper.IsOf (rendered : RenderedMapper) (host : Host)
    (resolved : Program.ResolvedMapper) : Prop where
  name : rendered.name = resolved.mapper.name
  signature : rendered.signature = resolved.mapper.signature
  fields : rendered.fields = resolved.included.map fun included => ⟨included.fieldName, included.name⟩
  conversions : rendered.conversions = resolved.resolution.plan.enumFunctions.map (conversionFunction host.schema)
  /-- The names that the enum functions are written with are identifiers. -/
  usable : ∀ function ∈ resolved.resolution.plan.enumFunctions,
    ∀ name ∈ Rendering.functionNames host.schema function, IsUsable name
  body : ∃ call id destination, resolved.resolution.plan.constructor = some call ∧
    resolved.mapper.method.result = .named id ∧ host.schema.expectStruct id = .ok destination ∧
      (Scope.mk host resolved.mapper.method.params).CarriesOut resolved.resolution.plan call destination
        rendered.body

theorem mapperField_ok {included : Mapper} {field : MapperField} (made : mapperField included = .ok field) :
    field = ⟨included.fieldName, included.name⟩ := by
  obtain ⟨name, isName, made⟩ := (bind_ok _ _ _).mp made
  cases made
  rw [identifier_ok isName]

/-- The body of a mapping method is written out for the struct that the method returns. -/
theorem body_made {scope : Scope} {resolved : Program.ResolvedMapper} {made : Body}
    (rendered : body scope resolved = .ok made) :
    ∃ call id destination, resolved.resolution.plan.constructor = some call ∧
      resolved.mapper.method.result = .named id ∧ scope.host.schema.expectStruct id = .ok destination ∧
        scope.bodyWith resolved.resolution.plan call destination = .ok made := by
  unfold body at rendered
  dsimp only at rendered
  split at rendered
  · cases rendered
  · next call planned =>
      split at rendered
      · next destination found =>
          obtain ⟨id, isResult, isStruct⟩ := (bind_ok _ _ _).mp found
          exact ⟨call, id, destination, planned, (Request.destinationType_ok _ _).mp isResult, isStruct, rendered⟩
      · cases rendered

theorem body_ok {scope : Scope} {resolved : Program.ResolvedMapper} {made : Body}
    (rendered : body scope resolved = .ok made) :
    ∃ call id destination, resolved.resolution.plan.constructor = some call ∧
      resolved.mapper.method.result = .named id ∧ scope.host.schema.expectStruct id = .ok destination ∧
        scope.CarriesOut resolved.resolution.plan call destination made := by
  obtain ⟨call, id, destination, planned, isResult, isStruct, written⟩ := body_made rendered
  exact ⟨call, id, destination, planned, isResult, isStruct, Scope.bodyWith_ok planned written⟩

theorem renderMapper_body {host : Host} {resolved : Program.ResolvedMapper} {rendered : RenderedMapper}
    (made : renderMapper host resolved = .ok rendered) :
    body ⟨host, resolved.mapper.method.params⟩ resolved = .ok rendered.body := by
  obtain ⟨fields, _, made⟩ := (bind_ok _ _ _).mp made
  obtain ⟨found, bodyMade, made⟩ := (bind_ok _ _ _).mp made
  obtain ⟨conversions, _, made⟩ := (bind_ok _ _ _).mp made
  obtain ⟨offered, _, made⟩ := (bind_ok _ _ _).mp made
  cases made
  exact bodyMade

theorem renderFunction_ok {schema : Schema} {function : EnumFunction} {conversion : ConversionFunction}
    (made : renderFunction schema function = .ok conversion) : conversion = conversionFunction schema function ∧
      ∀ name ∈ functionNames schema function, IsUsable name := by
  obtain ⟨names, areNames, made⟩ := (bind_ok _ _ _).mp made
  cases made
  refine ⟨rfl, fun name present => ?_⟩
  obtain ⟨accepted, _, isName⟩ := forall₂_left ((mapM_ok _ _ _).mp areNames) name present
  exact (identifier_ok isName) ▸ isName

theorem renderMapper_ok {host : Host} {resolved : Program.ResolvedMapper} {rendered : RenderedMapper}
    (made : renderMapper host resolved = .ok rendered) : rendered.IsOf host resolved := by
  have bodyMade := renderMapper_body made
  obtain ⟨fields, fieldsMade, made⟩ := (bind_ok _ _ _).mp made
  obtain ⟨found, _, made⟩ := (bind_ok _ _ _).mp made
  obtain ⟨conversions, conversionsMade, made⟩ := (bind_ok _ _ _).mp made
  obtain ⟨offered, _, made⟩ := (bind_ok _ _ _).mp made
  cases made
  have rendersEach := ((mapM_ok _ _ _).mp conversionsMade).imp fun _ _ => renderFunction_ok
  refine ⟨rfl, rfl, ?fields, ?conversions, ?usable, body_ok bodyMade⟩
  case fields =>
    rw [← List.forall₂_eq_eq_eq, List.forall₂_map_right_iff]
    exact ((mapM_ok _ _ _).mp fieldsMade).flip.imp fun _ _ => mapperField_ok
  case conversions =>
    rw [← List.forall₂_eq_eq_eq, List.forall₂_map_right_iff]
    exact rendersEach.flip.imp fun _ _ => And.left
  case usable =>
    intro function planned
    obtain ⟨_, _, _, usable⟩ := forall₂_left rendersEach function planned
    exact usable

end Rendering

namespace Program

variable {program : Program} {file : Source.SourceFile}

/-- The code for a mapper of the program, with the mappers of the program that it includes. -/
def RendersMapper (program : Program) (mapper : Mapper) (rendered : RenderedMapper) : Prop :=
  ∃ included resolution, mapper.Includes included ∧ included ⊆ program.mappers ∧
    (request mapper included).resolve program.host.schema = .ok resolution ∧
      rendered.IsOf program.host ⟨mapper, included, resolution⟩

/-- The schema of a program is built from a draft. -/
theorem ofFile_built (read : ofFile file = .ok program) :
    ∃ draft, SchemaDraft.build draft = .ok program.host.schema :=
  Host.ofItems_built (ofFile_ok read).1

theorem ofFile_includes (read : ofFile file = .ok program) : (program.mappers.map (·.name)).Nodup ∧
    List.Forall₂ (fun mapper included => mapper.Includes included ∧ included ⊆ program.mappers)
      program.mappers program.included := by
  obtain ⟨_, _, resolved⟩ := ofFile_ok read
  obtain ⟨distinct, inOrder⟩ := Inclusion.resolve_ok resolved
  refine ⟨distinct, List.forall₂_map_right_iff.mpr (inOrder.imp fun mapper places includes => ?_)⟩
  refine ⟨includes, fun one present => ?_⟩
  obtain ⟨place, _, isThere⟩ := List.mem_filterMap.mp present
  exact List.mem_of_getElem? isThere

/-- How the code for a mapper of the program is made: from a plan that was resolved without errors, with the
mappers of the program that it includes. -/
def Makes (program : Program) (mapper : Mapper) (rendered : RenderedMapper) : Prop :=
  ∃ included resolution, mapper.Includes included ∧ included ⊆ program.mappers ∧
    (request mapper included).resolve program.host.schema = .ok resolution ∧
      resolution.hasErrors = false ∧
        renderMapper program.host ⟨mapper, included, resolution⟩ = .ok rendered

/-- The body of the method is written out for the task that the request of the mapper becomes. -/
theorem Makes.body {mapper : Mapper} {rendered : RenderedMapper} (makes : program.Makes mapper rendered) :
    ∃ included task call id, mapper.Includes included ∧ included ⊆ program.mappers ∧
      (request mapper included).toTask program.host.schema = .ok task ∧ task.resolve.hasErrors = false ∧
        task.resolve.plan.constructor = some call ∧ mapper.method.result = .named id ∧
          program.host.schema.get? id = some task.destination ∧
            task.destination.kind = .struct task.destinationStruct ∧
              (Scope.mk program.host mapper.method.params).bodyWith task.resolve.plan call
                (task.destination, task.destinationStruct) = .ok rendered.body := by
  obtain ⟨included, resolution, includes, among, resolved, clean, made⟩ := makes
  obtain ⟨call, id, destination, planned, isResult, isDestination, bodyMade⟩ := body_made (renderMapper_body made)
  obtain ⟨task, accepted, rfl⟩ := ((request mapper included).resolve_ok _ _).mp resolved
  obtain ⟨other, otherResult, found, isStruct⟩ := (Request.toTask_ok _ _ _ accepted).destination
  obtain rfl : id = other := TypeRef.named.inj (isResult.symm.trans otherResult)
  rw [(Schema.expectStruct_ok _ _ _ _).mpr ⟨found, isStruct⟩] at isDestination
  cases isDestination
  exact ⟨included, task, call, id, includes, among, accepted, clean, planned, isResult, found, isStruct, bodyMade⟩

theorem Makes.renders {mapper : Mapper} {rendered : RenderedMapper} (makes : program.Makes mapper rendered) :
    program.RendersMapper mapper rendered := by
  obtain ⟨included, resolution, includes, among, resolved, _, made⟩ := makes
  exact ⟨included, resolution, includes, among, resolved, renderMapper_ok made⟩

/-- Where the diagnostics of a resolved mapper make no problems, none of them is an error. -/
theorem diagnosticProblems_nil {spans : Spans} {resolved : ResolvedMapper}
    (none : diagnosticProblems spans resolved = []) : resolved.resolution.hasErrors = false := by
  have noErrors := List.filter_eq_nil_iff.mp (List.map_eq_nil_iff.mp none)
  exact List.any_eq_false.mpr fun diagnostic present => noErrors diagnostic (List.mem_append_right _ present)

/-- The mappers of a program are rendered in their order. -/
theorem generate_makes (read : ofFile file = .ok program) {code : GeneratedCode}
    (generated : program.generate = .ok code) :
    code.carried = program.carried ∧ List.Forall₂ program.Makes program.mappers code.mappers := by
  obtain ⟨all, resolved, generated⟩ := (bind_ok _ _ _).mp generated
  obtain ⟨noProblems, rfl⟩ := Checked.toExcept_ok.mp (mapError_ok.mp resolved)
  have inOrder := Checked.gather_map_ok _ (fun _ _ => resolveMapper_error) noProblems
  dsimp only at generated
  split at generated
  · next clean =>
      obtain ⟨mappers, rendered, same⟩ := (bind_ok _ _ _).mp generated
      cases same
      have clean := List.flatMap_eq_nil_iff.mp (List.isEmpty_iff.mp clean)
      have made := (List.forall₂_and_left _ _).mpr ⟨clean, (mapM_ok _ _ _).mp rendered⟩
      refine ⟨rfl, (forall₂_zipped (ofFile_includes read).2 (forall₂_comp inOrder made)).imp ?_⟩
      rintro mapper rendered ⟨included, _, ⟨includes, among⟩, one, oneResolved, noErrors, made⟩
      obtain ⟨resolution, found, rfl⟩ := resolveMapper_ok oneResolved
      exact ⟨included, resolution, includes, among, found, diagnosticProblems_nil noErrors, made⟩
  · cases generated

end Program

/-- Generated code comes from a program, mapper by mapper. -/
theorem generate_made {file : Source.SourceFile} {code : GeneratedCode} (generated : generate file = .ok code) :
    ∃ program, Program.ofFile file = .ok program ∧ code.carried = program.carried ∧
      List.Forall₂ program.Makes program.mappers code.mappers := by
  obtain ⟨program, read, generated⟩ := (bind_ok _ _ _).mp generated
  have read := mapError_ok.mp read
  exact ⟨program, read, Program.generate_makes read generated⟩

theorem generate_ok {file : Source.SourceFile} {code : GeneratedCode} (generated : generate file = .ok code) :
    ∃ program, Program.ofFile file = .ok program ∧
      List.Forall₂ program.RendersMapper program.mappers code.mappers := by
  obtain ⟨program, read, _, makes⟩ := generate_made generated
  exact ⟨program, read, makes.imp fun _ _ => Program.Makes.renders⟩

/-- The code consists of what is carried over and of a piece of the kind for each mapper. -/
def Program.IsWritten (program : Program) (isPiece : Mapper → List Source.Lexeme → Prop) (code : List Source.Lexeme) :
    Prop :=
  ∃ pieces, code = program.carried.flatMap lexemes ++ pieces.flatten ∧ List.Forall₂ isPiece program.mappers pieces

/-- Code that is generated from a text is written mapper by mapper. -/
theorem generate_written {text : String} {file : Source.SourceFile} (parsed : Source.SourceFile.ofText text = .ok file)
    {code : GeneratedCode} (generated : generate file = .ok code) :
    ∃ program, Program.ofFile file = .ok program ∧ ∀ isPiece : Mapper → List Source.Lexeme → Prop,
      (∀ mapper rendered, mapper.IsSound program.host → program.Makes mapper rendered → isPiece mapper rendered.code) →
        program.IsWritten isPiece code.lexemes := by
  obtain ⟨program, read, carried, makes⟩ := generate_made generated
  have sound := Program.ofFile_isSound (Source.SourceFile.ofText_isRead parsed) read
  refine ⟨program, read, fun isPiece each => ⟨code.mappers.map (·.code), ?_, ?_⟩⟩
  · rw [GeneratedCode.lexemes, carried]
    rfl
  · rw [List.forall₂_map_right_iff]
    refine ((List.forall₂_and_left _ _).mpr ⟨sound.mappers, makes⟩).imp ?_
    exact fun mapper rendered both => each mapper rendered both.1 both.2

end ObjectMapping
