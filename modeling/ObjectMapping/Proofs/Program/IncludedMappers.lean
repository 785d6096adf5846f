/-
This file proves how generated code reaches the mappers that a mapper includes: through one field for each,
which goes by the name of the mapper in snake case.
-/

import ObjectMapping.Proofs.Program.Rendered

namespace ObjectMapping

open Rendering Source

/-- What is known of a call of an included mapper in a plan: the search for a mapper selected it. -/
theorem Request.resolve_selects {schema : Schema} {request : Request} {resolution : Resolution}
    (resolved : request.resolve schema = .ok resolution) {value : Expr} (isValue : value ∈ resolution.plan.values)
    {field method : String} {arguments : List Expr} (call : .delegate field method arguments ∈ value.parts) :
    ∃ delegation source destination, Delegation.findDirect? request.delegates delegation.perElement source
        destination request.method.params.length = some delegation ∧
      delegation.mapper ∈ request.delegates ∧ delegation.method ∈ delegation.mapper.methods ∧
        delegation.mapper.field = field ∧ delegation.method.name = method := by
  obtain ⟨task, accepted, rfl⟩ := (request.resolve_ok schema resolution).mp resolved
  obtain ⟨delegation, source, destination, read, takes, _, same⟩ := task.resolve_makesParts value isValue _ call
  rw [(request.toTask_ok schema task accepted).sameRequest, MappingTask.params,
    (request.toTask_ok schema task accepted).sameRequest, Request.paramNames, List.length_map] at takes
  cases same
  exact ⟨delegation, source, destination, takes.selected, takes.included, takes.method, rfl, rfl⟩

/-- A call through a field reaches a mapper if no field of that name holds another. -/
def Rendering.RenderedMapper.Reaches (rendered : RenderedMapper) (field mapper : String) : Prop :=
  ⟨field, mapper⟩ ∈ rendered.fields ∧ ∀ other ∈ rendered.fields, other.name = field → other.mapper = mapper

/-- How the code for a mapper reaches the mappers that it includes. -/
structure Mapper.ReachesIncluded (mapper : Mapper) (included : List Mapper) (rendered : RenderedMapper) : Prop where
  inOrder : included.map (·.name) = mapper.inclusions.map (·.name)
  /-- One field for each inclusion, in the order of inclusion. -/
  fields : rendered.fields = mapper.inclusions.map fun inclusion =>
    ⟨(Name.ofText inclusion.name).snakeCase, inclusion.name⟩
  /-- No mapper is held twice. -/
  once : (rendered.fields.map (·.mapper)).Nodup
  /-- The fields are told apart if and only if the names of the included mappers differ in snake case. -/
  apart : (rendered.fields.map (·.name)).Nodup ↔
    (mapper.inclusions.map fun inclusion => (Name.ofText inclusion.name).snakeCase).Nodup
  /-- A call names the method of the mapper that the search selected. It reaches that mapper if and only if no
  other included mapper has its name in snake case. -/
  calls : ∀ field method arguments, .delegated field method arguments ∈ rendered.body.parts →
    ∃ selected ∈ included, ∃ delegation source destination,
      Delegation.findDirect? (included.map (·.asIncluded)) delegation.perElement source destination
          mapper.method.params.length = some delegation ∧
        delegation.mapper = selected.asIncluded ∧ method = selected.method.name ∧
          (rendered.Reaches field selected.name ↔ ∀ other ∈ included, other.fieldName = field → other = selected)

namespace Mapper.ReachesIncluded

variable {mapper : Mapper} {included : List Mapper} {rendered : RenderedMapper}

theorem of_isOf {host : Host} {resolution : Resolution} (includes : mapper.Includes included)
    (resolved : (Program.request mapper included).resolve host.schema = .ok resolution)
    (isOf : rendered.IsOf host ⟨mapper, included, resolution⟩) : mapper.ReachesIncluded included rendered := by
  have named : (included.map fun one => (⟨one.fieldName, one.name⟩ : MapperField)) =
      mapper.inclusions.map fun inclusion => ⟨(Name.ofText inclusion.name).snakeCase, inclusion.name⟩ := by
    have sameNames := congrArg
      (List.map fun name => (⟨(Name.ofText name).snakeCase, name⟩ : MapperField)) includes.inOrder
    rwa [List.map_map, List.map_map] at sameNames
  refine ⟨includes.inOrder, isOf.fields.trans named, ?once, ?apart, ?calls⟩
  case once =>
    rw [isOf.fields, named, List.map_map]
    exact includes.once
  case apart =>
    rw [isOf.fields, named, List.map_map]
    rfl
  case calls =>
    intro field method arguments isPart
    obtain ⟨call, id, destination, planned, _, _, carries⟩ := isOf.body
    obtain ⟨expr, isPlanned, given, isCall⟩ := carries.parts _ isPart
    obtain ⟨delegation, source, destination, found, isIncluded, isMethod, rfl, sameMethod⟩ :=
      Request.resolve_selects resolved isPlanned isCall
    obtain ⟨selected, present, isSelected⟩ := List.mem_map.mp isIncluded
    rw [← isSelected] at isMethod ⊢
    rw [List.mem_singleton.mp isMethod] at sameMethod
    refine ⟨selected, present, delegation, source, destination, found, isSelected.symm, sameMethod.symm, ?_⟩
    have distinct : (included.map (·.name)).Nodup := includes.inOrder ▸ includes.once
    have isHeld : (⟨selected.asIncluded.field, selected.name⟩ : MapperField) ∈ rendered.fields :=
      isOf.fields ▸ List.mem_map_of_mem present
    rw [RenderedMapper.Reaches, and_iff_right isHeld, isOf.fields, List.forall_mem_map]
    refine forall₂_congr fun other isOther => imp_congr_right fun _ => ⟨fun same => ?_, fun same => same ▸ rfl⟩
    exact List.inj_on_of_nodup_map distinct isOther present same

end Mapper.ReachesIncluded

/-- The code for a mapper of the program reaches those that it includes. -/
def Program.ReachesIncluded (program : Program) (mapper : Mapper) (rendered : RenderedMapper) : Prop :=
  ∃ included, included ⊆ program.mappers ∧ mapper.ReachesIncluded included rendered

/-- Generated code holds each included mapper in a field, and every call is one of the mapper that the search
selected. The names of the fields tell the mappers apart, so that every call reaches the selected one, as far
as the names of the included mappers differ in snake case. -/
theorem generate_reachesIncluded {file : SourceFile} {code : GeneratedCode}
    (generated : generate file = .ok code) : ∃ program, Program.ofFile file = .ok program ∧
      List.Forall₂ program.ReachesIncluded program.mappers code.mappers := by
  obtain ⟨program, read, renders⟩ := generate_ok generated
  refine ⟨program, read, renders.imp ?_⟩
  rintro mapper rendered ⟨included, resolution, includes, among, resolved, isOf⟩
  exact ⟨included, among, .of_isOf includes resolved isOf⟩

/-- The fields of the generated structs by their names. -/
def GeneratedCode.fieldNames (code : GeneratedCode) : List (List String) :=
  code.mappers.map fun mapper => mapper.fields.map (·.name)

/-- A mapper that hands the identifier in what it maps to the mapper that it includes. -/
def namingText : String :=
  "#[mapper] trait IdMapper \x7b fn map(id: Id) -> Name; \x7d #[mapper] trait AskMapper " ++
    "\x7b fn map(ask: Ask) -> Tell; fn new() \x7b include_mappers([IdMapper]); \x7d \x7d " ++
    "struct Id \x7b\x7d struct Name \x7b\x7d struct Ask \x7b pub by: Id \x7d struct Tell \x7b pub by: Name \x7d"

/-- The mapper of identifiers is reached. -/
theorem generate_reachesIncluded_naming : ∃ file code program,
    SourceFile.ofText namingText = .ok file ∧ generate file = .ok code ∧
      code.fieldNames = [[], ["id_mapper"]] ∧ Program.ofFile file = .ok program ∧
        List.Forall₂ program.ReachesIncluded program.mappers code.mappers := by
  have held : passes (fun file => passes (fun code => decide (code.fieldNames = [[], ["id_mapper"]]))
      (generate file)) (SourceFile.ofText namingText) = true := by
    have chars : CharsOf namingText _ := .append (.append (.literal _) _) _
    rw [SourceFile.ofText_chars chars]
    decide +kernel
  obtain ⟨file, read, held⟩ := passes_iff.mp held
  obtain ⟨code, generated, held⟩ := passes_iff.mp held
  obtain ⟨program, programRead, reaches⟩ := generate_reachesIncluded generated
  exact ⟨file, code, program, read, generated, of_decide_eq_true held, programRead, reaches⟩

/-- A mapper that includes two whose names are the same in snake case. -/
def sharedFieldText : String :=
  "#[mapper] trait HTTPMapper \x7b fn map(id: Id) -> Id; \x7d " ++
    "#[mapper] trait HttpMapper \x7b fn map(id: Id) -> Id; \x7d #[mapper] trait CallMapper " ++
    "\x7b fn map(id: Id) -> Id; fn new() \x7b include_mappers([HTTPMapper, HttpMapper]); \x7d \x7d struct Id \x7b\x7d"

/-- Two included mappers can get fields of one name. -/
theorem generate_sharesField : ¬∀ (text : String) (file : SourceFile) (code : GeneratedCode),
    SourceFile.ofText text = .ok file → generate file = .ok code → ∀ names ∈ code.fieldNames, names.Nodup := by
  have shared : passes (fun file => passes (fun code =>
      decide (code.fieldNames = [[], [], ["http_mapper", "http_mapper"]])) (generate file))
      (SourceFile.ofText sharedFieldText) = true := by
    have chars : CharsOf sharedFieldText _ := .append (.append (.literal _) _) _
    rw [SourceFile.ofText_chars chars]
    decide +kernel
  obtain ⟨file, read, shared⟩ := passes_iff.mp shared
  obtain ⟨code, generated, shared⟩ := passes_iff.mp shared
  intro distinct
  have apart := distinct sharedFieldText file code read generated ["http_mapper", "http_mapper"]
    (of_decide_eq_true shared ▸ by decide)
  exact absurd apart (by decide)

end ObjectMapping
