/-
This file proves what is known of the program that a source file gives and of its resolved mappers.
-/

import ObjectMapping.Program.Basic
import ObjectMapping.Proofs.Host.Named
import ObjectMapping.Proofs.Resolution.Access
import ObjectMapping.Rendering.Mapper

namespace ObjectMapping

open Rendering

/-- The schema of a host is built from a draft. -/
theorem Host.ofItems_built {items : List Source.Item} {host : Host} (read : Host.ofItems items = .ok host) :
    ∃ draft, SchemaDraft.build draft = .ok host.schema := by
  obtain ⟨found, _, read⟩ := (bind_ok _ _ _).mp read
  dsimp only at read
  split at read
  · next schema built =>
      cases read
      exact ⟨_, built⟩
  · cases read

namespace Program

/-- A program is made in three steps: the types are read, then the mappers, then their inclusions. -/
theorem ofFile_ok {file : Source.SourceFile} {program : Program} (read : ofFile file = .ok program) :
    Host.ofItems ((file.items.filter fun item => (mapperTrait? item).isNone).map (·.item)) = .ok program.host ∧
      (Checked.gather ((file.items.filterMap mapperTrait?).map (Mapper.ofTrait program.host))).toExcept =
        .ok program.mappers ∧ Inclusion.resolve program.mappers = .ok program.inclusions := by
  obtain ⟨host, hostRead, read⟩ := (bind_ok _ _ _).mp read
  obtain ⟨mappers, mappersRead, read⟩ := (bind_ok _ _ _).mp read
  obtain ⟨inclusions, resolved, same⟩ := (bind_ok _ _ _).mp read
  cases same
  exact ⟨hostRead, mappersRead, resolved⟩

/-- What is known of the program of a source file. -/
structure IsSound (program : Program) : Prop where
  built : ∃ draft, SchemaDraft.build draft = .ok program.host.schema
  host : program.host.IsNamed
  mappers : ∀ mapper ∈ program.mappers, mapper.IsSound program.host

theorem ofFile_isSound {file : Source.SourceFile} (isRead : ∀ item ∈ file.items, item.item.IsRead)
    {program : Program} (read : ofFile file = .ok program) : program.IsSound := by
  obtain ⟨hostRead, mappersRead, _⟩ := ofFile_ok read
  refine ⟨Host.ofItems_built hostRead, Host.ofItems_isNamed hostRead ?_, fun mapper isMapper => ?_⟩
  · exact List.forall_mem_map.mpr fun item present => isRead item (List.mem_of_mem_filter present)
  · obtain ⟨_, gathered⟩ := Checked.toExcept_ok.mp mappersRead
    rw [← gathered] at isMapper
    obtain ⟨declared, isDeclared, mapperRead⟩ := List.mem_map.mp (Checked.gather_mem isMapper)
    obtain ⟨item, isItem, isTrait⟩ := List.mem_filterMap.mp isDeclared
    have itemRead := isRead item isItem
    unfold mapperTrait? at isTrait
    split at isTrait
    · next found written =>
        rw [written] at itemRead
        split at isTrait
        · cases isTrait
          exact Mapper.ofTrait_isSound itemRead mapperRead
        · cases isTrait
    · cases isTrait

/-- The mappers that are included are mappers of the program. -/
theorem included_subset {program : Program} {included : List Mapper} (isIncluded : included ∈ program.included) :
    included ⊆ program.mappers := by
  obtain ⟨places, _, rfl⟩ := List.mem_map.mp isIncluded
  intro mapper present
  obtain ⟨place, _, isThere⟩ := List.mem_filterMap.mp present
  exact List.mem_of_getElem? isThere

theorem resolveMapper_ok {program : Program} {mapper : Mapper} {included : List Mapper} {one : ResolvedMapper}
    (resolved : program.resolveMapper mapper included = .ok one) :
    ∃ resolution, (request mapper included).resolve program.host.schema = .ok resolution ∧
      one = ⟨mapper, included, resolution⟩ := by
  unfold resolveMapper at resolved
  split at resolved
  · next resolution found =>
      cases resolved
      exact ⟨resolution, found, rfl⟩
  · cases resolved

theorem resolveMapper_error {program : Program} {mapper : Mapper} {included : List Mapper} {problems : List Problem}
    (refused : program.resolveMapper mapper included = .error problems) : problems ≠ [] := by
  unfold resolveMapper at refused
  split at refused
  · cases refused
  · cases refused
    exact List.cons_ne_nil _ _

/-- A resolved mapper is one of the program, with mappers of the program that it includes. -/
theorem resolve_mem {program : Program} {all : List ResolvedMapper} (resolved : program.resolve = .ok all)
    {one : ResolvedMapper} (present : one ∈ all) :
    one.mapper ∈ program.mappers ∧ one.included ∈ program.included ∧
      (request one.mapper one.included).resolve program.host.schema = .ok one.resolution := by
  obtain ⟨_, rfl⟩ := Checked.toExcept_ok.mp resolved
  obtain ⟨⟨mapper, included⟩, isPair, oneResolved⟩ := List.mem_map.mp (Checked.gather_mem present)
  obtain ⟨isMapper, isIncluded⟩ := List.of_mem_zip isPair
  obtain ⟨resolution, found, rfl⟩ := resolveMapper_ok oneResolved
  exact ⟨isMapper, isIncluded, found⟩

/-- The task of a mapper is made with usable names, where the mapper has usable fields. -/
theorem task_isNamed {program : Program} (sound : program.IsSound) {mapper : Mapper}
    (isMapper : mapper ∈ program.mappers) {included : List Mapper} (isIncluded : included ∈ program.included)
    (fields : ∀ other ∈ included, IsUsable other.fieldName) {task : MappingTask}
    (accepted : (request mapper included).toTask program.host.schema = .ok task) : task.IsNamed := by
  have mapperSound := sound.mappers mapper isMapper
  obtain ⟨sameSchema, sameRequest, ⟨sourceId, others, params, sourceFound, sourceStruct⟩,
    ⟨id, _, found, isStruct⟩, _, _⟩ := Request.toTask_ok _ _ _ accepted
  have ofMethod : task.params = mapper.method.params.map (·.name) := by rw [MappingTask.params, sameRequest]; rfl
  refine
    { params := ?params
      source := ⟨?param, sound.host.structs sourceId task.source _ sourceFound sourceStruct⟩
      destination := ⟨sound.host.ident id _ found, sound.host.structs id task.destination _ found isStruct⟩
      fields := ?fields
      methods := ?methods
      mapped := ?mapped
      collected := ?collected
      binders := ?binders
      types := sameSchema ▸ sound.host.letters }
  case params =>
    rw [ofMethod]
    exact List.forall_mem_map.mpr fun param present => isUsable_of_isName (mapperSound.params_areNames param present)
  case param =>
    change mapper.method.params = _ at params
    rw [ofMethod, params]
    exact List.mem_cons_self
  case fields =>
    rw [sameRequest]
    exact List.forall_mem_map.mpr fields
  case methods =>
    rw [sameRequest]
    refine List.forall_mem_map.mpr fun other isOther => List.forall_mem_singleton.mpr ?_
    exact isUsable_of_isName (sound.mappers other (included_subset isIncluded isOther)).method_isName
  case mapped =>
    rw [sameRequest]
    exact fun directive given => isUsable_of_isName (mapperSound.directives.mapped directive given)
  case collected =>
    rw [sameRequest]
    exact fun directive given => isUsable_of_isName (mapperSound.directives.collected directive given)
  case binders =>
    rw [sameRequest]
    intro directive given closure item name isFirst
    have itemWritten := mapperSound.directives.items directive given
    rw [item] at itemWritten
    have isParam : name ∈ closure.params := List.mem_of_mem_head? (Option.filter_eq_some_iff.mp isFirst).1
    exact isUsable_of_isName (itemWritten.params name isParam)

/-- The body of a mapping method is written out with the struct that the task maps to. -/
theorem body_eq {host : Host} {one : ResolvedMapper} {task : MappingTask}
    (accepted : (request one.mapper one.included).toTask host.schema = .ok task) {call : ConstructorPlan}
    (planned : one.resolution.plan.constructor = some call) (params : List Parameter) :
    body ⟨host, params⟩ one =
      (Scope.mk host params).bodyWith one.resolution.plan call (task.destination, task.destinationStruct) := by
  obtain ⟨resultId, isResult, found, isStruct⟩ := (Request.toTask_ok _ _ _ accepted).destination
  have destination : ((request one.mapper one.included).destinationType >>= fun id =>
      host.schema.expectStruct id) = .ok (task.destination, task.destinationStruct) :=
    (bind_ok _ _ _).mpr ⟨resultId, (Request.destinationType_ok _ _).mpr isResult,
      (Schema.expectStruct_ok _ _ _ _).mpr ⟨found, isStruct⟩⟩
  unfold body
  simp only [planned, destination]

end Program

end ObjectMapping
