/-
This file proves that the analysis of a source file and the generation of code for it refuse it for the same
reasons: what the one reports, the other reports as a problem at the same place.
-/

import ObjectMapping.Program.Generate
import ObjectMapping.Proofs.Mapper.Locations
import ObjectMapping.Proofs.Program.Basic
import ObjectMapping.Report.Basic

namespace ObjectMapping

open Source

namespace Spans

/-- The stretches stay and the new one is known. -/
theorem mem_record {spans : Spans} {start location : Location} :
    location ∈ (spans.record start).starts ↔ location ∈ spans.starts ∨ location = start := by
  unfold record
  split
  · next isKnown =>
      rw [List.contains_iff_mem] at isKnown
      exact ⟨.inl, fun known => known.elim id fun same => same ▸ isKnown⟩
  · rw [List.mem_append, List.mem_singleton]

/-- Recording loses no location, also where two stretches start together. -/
theorem mem_recordAll {spans : Spans} {starts : List Location} {location : Location} :
    location ∈ (starts.foldl record spans).starts ↔ location ∈ spans.starts ∨ location ∈ starts := by
  induction starts generalizing spans with
  | nil => simp
  | cons start rest inductionHypothesis =>
      rw [List.foldl_cons, inductionHypothesis, mem_record, List.mem_cons, or_assoc]

/-- A stretch is found at its own start, whichever stretch was recorded there. -/
theorem start?_of_mem {spans : Spans} {location : Location} (known : location ∈ spans.starts) :
    spans.start? location = some location := by
  unfold start?
  cases found : spans.starts.find? fun start => start == location with
  | none => exact absurd BEq.rfl (List.find?_eq_none.mp found location known)
  | some start => rw [show start = location by simpa using List.find?_some found]

end Spans

namespace Mapper

/-- A trait is not refused without a problem. -/
theorem ofTrait_error {host : Host} {item : TraitItem} {problems : List Problem}
    (refused : ofTrait host item = .error problems) : problems ≠ [] := by
  unfold ofTrait at refused
  split at refused
  · cases refused
    exact List.cons_ne_nil _ _
  · obtain checkFailed | ⟨found, _, noMethod⟩ := (bind_error _ _ _).mp refused
    · exact Checked.toExcept_error checkFailed
    · dsimp only at noMethod
      split at noMethod
      · cases noMethod
        exact List.cons_ne_nil _ _
      · cases noMethod

theorem ofTrait_name {host : Host} {item : TraitItem} {mapper : Mapper}
    (declared : ofTrait host item = .ok mapper) : mapper.name = item.name := by
  obtain ⟨members, configuration, made⟩ := ofTrait_ok declared
  exact made.name

end Mapper

/-- Every mapper is given the mappers that it includes. -/
theorem Inclusion.resolve_length {mappers : List Mapper} {inclusions : List (List Nat)}
    (resolved : resolve mappers = .ok inclusions) : inclusions.length = mappers.length := by
  obtain ⟨found, checked, resolved⟩ := (bind_ok _ _ _).mp resolved
  obtain ⟨_, rfl⟩ := Checked.toExcept_ok.mp checked
  split at resolved
  · cases resolved
  · cases resolved
    rw [List.length_map, List.length_map]

namespace Source.SourceFile

/-- The mappers that a file declares, in their order. -/
def mapperTraits (file : SourceFile) : List TraitItem := file.items.filterMap Program.mapperTrait?

end Source.SourceFile

namespace Report

/-- The diagnostics that keep code from being generated, mapper by mapper. -/
def errors (report : Report) : List Diagnostic :=
  report.mappers.flatMap fun mapper => mapper.diagnostics.filter (·.isError)

theorem hasErrors_iff (report : Report) : report.hasErrors = true ↔ report.errors ≠ [] := by
  simp [hasErrors, MapperReport.hasErrors, errors, List.flatMap_eq_nil_iff]

end Report

namespace Program

/-- What is known of the mappers of a program, each of which its trait declares. -/
structure Declares (program : Program) (file : SourceFile) : Prop where
  mappers : List.Forall₂ (fun declared mapper => Mapper.ofTrait program.host declared = .ok mapper)
    file.mapperTraits program.mappers
  inclusions : program.inclusions.length = program.mappers.length

section

variable {program : Program} {file : SourceFile}

theorem ofFile_declares (read : ofFile file = .ok program) :
    program.Declares file := by
  obtain ⟨_, gathered, included⟩ := ofFile_ok read
  obtain ⟨noProblems, same⟩ := Checked.toExcept_ok.mp gathered
  exact ⟨same ▸ Checked.gather_map_ok _ (fun _ _ => Mapper.ofTrait_error) noProblems,
    Inclusion.resolve_length included⟩

theorem Declares.mapperNames (declares : program.Declares file) :
    program.mappers.map (·.name) = file.mapperTraits.map (·.name) :=
  forall₂_map_eq declares.mappers fun _ _ => Mapper.ofTrait_name

/-- The mappers of a program keep every location that a diagnostic about them can have. -/
theorem Declares.isLocated (declares : program.Declares file) {mapper : Mapper}
    (isMapper : mapper ∈ program.mappers) : mapper.IsLocated := by
  obtain ⟨_, _, declared⟩ := forall₂_right declares.mappers mapper isMapper
  exact Mapper.ofTrait_isLocated declared

theorem resolveMapper_mapper {mapper : Mapper} {included : List Mapper} {one : ResolvedMapper}
    (resolved : program.resolveMapper mapper included = .ok one) : one.mapper = mapper := by
  obtain ⟨resolution, _, rfl⟩ := resolveMapper_ok resolved
  rfl

/-- The mappers are resolved in the order of their declaration. -/
theorem resolve_mappers (paired : program.inclusions.length = program.mappers.length)
    {all : List ResolvedMapper} (resolved : program.resolve = .ok all) :
    all.map (·.mapper) = program.mappers := by
  obtain ⟨noProblems, rfl⟩ := Checked.toExcept_ok.mp resolved
  have inOrder := Checked.gather_map_ok _ (fun _ _ => resolveMapper_error) noProblems
  have isPaired : program.mappers.length ≤ program.included.length := by
    rw [included, List.length_map, paired]
  exact (forall₂_map_eq inOrder fun _ _ => resolveMapper_mapper).trans (List.map_fst_zip isPaired)

variable (declares : program.Declares file)

include declares

/-- Every diagnostic about a mapper is located at a stretch that is known. -/
theorem diagnostic_located {all : List ResolvedMapper} (resolved : program.resolve = .ok all)
    {one : ResolvedMapper} (present : one ∈ all) {diagnostic : Diagnostic} (reported : diagnostic ∈ one.diagnostics) :
    program.spans.start? diagnostic.location = some diagnostic.location := by
  obtain ⟨isMapper, _, oneResolved⟩ := resolve_mem resolved present
  have located := declares.isLocated isMapper
  -- The stretches of all mappers are recorded before any diagnostic is looked up.
  refine Spans.start?_of_mem (Spans.mem_recordAll.mpr (.inr (List.mem_flatMap.mpr ⟨_, isMapper, ?_⟩)))
  obtain ofDeclaration | ofResolution := List.mem_append.mp reported
  · exact located.diagnostics diagnostic ofDeclaration
  · have within := (Request.resolve_isErrorWithin oneResolved ofResolution).location
    obtain same | inDirective := List.mem_cons.mp within
    · exact same ▸ located.method
    · exact located.directives inDirective

/-- A diagnostic makes a problem at its own location. -/
theorem diagnosticProblems_located {all : List ResolvedMapper} (resolved : program.resolve = .ok all)
    {one : ResolvedMapper} (present : one ∈ all) :
    diagnosticProblems program.spans one =
      (one.diagnostics.filter (·.isError)).map fun found => ⟨found.location, .diagnostic found⟩ := by
  refine List.map_congr_left fun found isFound => ?_
  rw [diagnosticProblem, diagnostic_located declares resolved present (List.mem_of_mem_filter isFound),
    Option.getD_some]

/-- Errors of a report make code be refused with one problem each, at the location of the error. -/
theorem generate_errors {report : Report} (analyzed : program.analyze = .ok report)
    (faulty : report.hasErrors = true) : program.generate =
      .error (.problems (report.errors.map fun found => ⟨found.location, .diagnostic found⟩)) := by
  obtain ⟨all, resolved, same⟩ := (bind_ok _ _ _).mp analyzed
  have sameErrors : all.flatMap (fun one => one.diagnostics.filter (·.isError)) = report.errors := by
    cases same
    rw [Report.errors, List.flatMap_map]
    rfl
  have problems : all.flatMap (diagnosticProblems program.spans) =
      report.errors.map fun found => ⟨found.location, .diagnostic found⟩ := by
    rw [← sameErrors, List.map_flatMap]
    exact List.flatMap_congr fun one present => diagnosticProblems_located declares resolved present
  have some : (report.errors.map fun found => (⟨found.location, .diagnostic found⟩ : Problem)) ≠ [] :=
    List.map_eq_nil_iff.not.mpr (report.hasErrors_iff.mp faulty)
  rw [generate, resolved]
  change (if (all.flatMap (diagnosticProblems program.spans)).isEmpty then _ else _) = _
  rw [problems, if_neg (List.isEmpty_iff.not.mpr some)]

end

end Program

/-- The analysis and the generation refuse a source file for the same reasons. What keeps the file from being
analyzed keeps code from being generated; and if the report has errors, code is refused with one problem for
each of them, in their order and that of the mappers, at the location of the error. -/
theorem generate_refuses (file : SourceFile) :
    (∀ problems, analyze file = .error problems → generate file = .error (.problems problems)) ∧
      ∀ report, analyze file = .ok report →
        report.mappers.map (·.mapper) = file.mapperTraits.map (·.name) ∧
          (report.hasErrors = true → ∃ problems, generate file = .error (.problems problems) ∧
            problems.map (fun problem => (problem.location, problem.message)) =
              report.errors.map fun found => (found.location, found.id.code ++ ": " ++ found.message)) := by
  refine ⟨fun problems refused => ?_, fun report analyzed => ?_⟩
  · obtain notRead | ⟨program, read, refused⟩ := (bind_error _ _ _).mp refused
    · rw [generate, notRead]
      rfl
    · obtain notResolved | ⟨all, _, same⟩ := (bind_error _ _ _).mp refused
      · rw [generate, read]
        change program.generate = _
        rw [Program.generate, notResolved]
        rfl
      · cases same
  · obtain ⟨program, read, analyzed⟩ := (bind_ok _ _ _).mp analyzed
    have declares := Program.ofFile_declares read
    refine ⟨?_, fun faulty => ?_⟩
    · obtain ⟨all, resolved, same⟩ := (bind_ok _ _ _).mp analyzed
      cases same
      rw [← declares.mapperNames, ← Program.resolve_mappers declares.inclusions resolved, List.map_map,
        List.map_map]
      rfl
    · have refused : generate file = .error (.problems (report.errors.map fun found =>
          ⟨found.location, .diagnostic found⟩)) := by
        rw [generate, read]
        exact Program.generate_errors declares analyzed faulty
      refine ⟨_, refused, ?_⟩
      rw [List.map_map]
      rfl

/-- Two mappers to a type with members that cannot be mapped; the first has a second method and a statement
that is no directive as well. -/
def faultyText : String :=
  "#[mapper] trait First \x7b fn map(source: &Source) -> Target; fn again(source: &Source) -> Target; " ++
    "fn new() \x7b let unused = 1; \x7d \x7d " ++
    "#[mapper] trait Second \x7b fn map(source: &Source) -> Target; \x7d " ++
    "pub struct Source \x7b pub id: u8 \x7d pub struct Target \x7b pub name: String, pub city: String \x7d"

theorem faultyText_analyzed : ∃ file report, SourceFile.ofText faultyText = .ok file ∧
    analyze file = .ok report ∧ report.hasErrors = true ∧ report.errors.map (·.location) =
      [⟨1, 62⟩, ⟨1, 107⟩, ⟨1, 27⟩, ⟨1, 27⟩, ⟨1, 155⟩, ⟨1, 155⟩] := by
  have faulty : passes (fun file => passes (fun report => report.hasErrors &&
      decide (report.errors.map (·.location) =
        [⟨1, 62⟩, ⟨1, 107⟩, ⟨1, 27⟩, ⟨1, 27⟩, ⟨1, 155⟩, ⟨1, 155⟩])) (analyze file))
      (SourceFile.ofText faultyText) = true := by
    have chars : CharsOf faultyText _ := .append (.append (.append (.literal _) _) _) _
    rw [SourceFile.ofText_chars chars]
    decide +kernel
  obtain ⟨file, read, faulty⟩ := passes_iff.mp faulty
  obtain ⟨report, analyzed, faulty⟩ := passes_iff.mp faulty
  rw [Bool.and_eq_true, decide_eq_true_eq] at faulty
  exact ⟨file, report, read, analyzed, faulty⟩

/-- A mapper without a mapping method. -/
def methodlessText : String := "#[mapper] trait Idle \x7b fn new() \x7b \x7d \x7d"

theorem methodlessText_refused : ∃ file problems, SourceFile.ofText methodlessText = .ok file ∧
    analyze file = .error problems := by
  have refused : passes (fun file => !(analyze file).isOk) (SourceFile.ofText methodlessText) = true := by
    decide +kernel
  obtain ⟨file, read, refused⟩ := passes_iff.mp refused
  cases analyzed : analyze file with
  | error problems => exact ⟨file, problems, read, analyzed⟩
  | ok report =>
      rw [analyzed] at refused
      cases refused

/-- Errors at one place stay apart, and a file that cannot be analyzed is refused as a whole. -/
theorem generate_refuses_faulty :
    (∃ file report problems, SourceFile.ofText faultyText = .ok file ∧ analyze file = .ok report ∧
      report.mappers.map (·.mapper) = file.mapperTraits.map (·.name) ∧
      generate file = .error (.problems problems) ∧ problems.map (·.location) =
        [⟨1, 62⟩, ⟨1, 107⟩, ⟨1, 27⟩, ⟨1, 27⟩, ⟨1, 155⟩, ⟨1, 155⟩]) ∧
      ∃ file problems, SourceFile.ofText methodlessText = .ok file ∧ analyze file = .error problems ∧
        generate file = .error (.problems problems) := by
  obtain ⟨file, report, read, analyzed, faulty, errors⟩ := faultyText_analyzed
  obtain ⟨inOrder, refused⟩ := (generate_refuses file).2 report analyzed
  obtain ⟨problems, refused, reported⟩ := refused faulty
  obtain ⟨idle, idleProblems, idleRead, idleRefused⟩ := methodlessText_refused
  refine ⟨⟨file, report, problems, read, analyzed, inOrder, refused, ?_⟩, idle, idleProblems, idleRead,
    idleRefused, (generate_refuses idle).1 idleProblems idleRefused⟩
  have places := congrArg (List.map Prod.fst) reported
  rw [List.map_map, List.map_map] at places
  exact places.trans errors

end ObjectMapping
