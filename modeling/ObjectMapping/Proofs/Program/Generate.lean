/-
This file proves which source files without errors code is generated from: those whose texts can be read again in the
form in which they enter the plans, and whose names give identifiers where generated code takes them into small letters.
-/

import ObjectMapping.Program.Generate
import ObjectMapping.Proofs.Mapper.Inclusion
import ObjectMapping.Proofs.Program.Basic
import ObjectMapping.Report.Basic

namespace ObjectMapping

open Rendering Source

/-- The texts of the user in a plan. -/
def Plan.userTexts (plan : Plan) : List String := plan.values.flatMap (·.userTexts)

/-- The types that elements are named for in a plan. -/
def Plan.namesakes (schema : Schema) (plan : Plan) : List String := plan.values.filterMap (·.namesake? schema)

/-- The texts of the user in the plans of a report. -/
def Report.userTexts (report : Report) : List String := report.mappers.flatMap (·.plan.userTexts)

/-- The names that generated code takes into small letters: those of included mappers, and those of the types that
elements are named for in the plans of the report. -/
def Program.takenNames (program : Program) (report : Report) : List String :=
  program.included.flatten.map (·.name) ++ report.mappers.flatMap (·.plan.namesakes program.host.schema)

/-- The need for a name in small letters. -/
def smallNeed (name : String) : Need := .identifier (Name.ofText name).snakeCase

theorem Plan.mem_openNeeds {schema : Schema} {plan : Plan} {need : Need} : need ∈ plan.openNeeds schema ↔
    (∃ text ∈ plan.userTexts, need = .expression text) ∨ ∃ ident ∈ plan.namesakes schema, need = smallNeed ident := by
  simp only [openNeeds, Expr.openNeeds, userTexts, namesakes, smallNeed, List.mem_flatMap, List.mem_append,
    List.mem_map, List.mem_filterMap, Option.mem_toList]
  constructor
  · rintro ⟨value, isValue, ⟨text, isText, rfl⟩ | ⟨ident, isNamesake, rfl⟩⟩
    · exact .inl ⟨text, ⟨value, isValue, isText⟩, rfl⟩
    · exact .inr ⟨ident, ⟨value, isValue, isNamesake⟩, rfl⟩
  · rintro (⟨text, ⟨value, isValue, isText⟩, rfl⟩ | ⟨ident, ⟨value, isValue, isNamesake⟩, rfl⟩)
    · exact ⟨value, isValue, .inl ⟨text, isText, rfl⟩⟩
    · exact ⟨value, isValue, .inr ⟨ident, isNamesake, rfl⟩⟩

namespace Program

/-- What the code for a resolved mapper needs that is not met in any case. -/
def ResolvedMapper.openNeeds (schema : Schema) (one : ResolvedMapper) : List Need :=
  one.included.map (fun other => smallNeed other.name) ++ one.resolution.plan.openNeeds schema

theorem mapperField_requires (included : Mapper) : Requires [smallNeed included.name] (mapperField included) :=
  identifier_requires (.pure _)

theorem renderFunction_requires (schema : Schema) (function : EnumFunction) :
    Requires ((functionNames schema function).map .identifier) (renderFunction schema function) := by
  rw [List.map_eq_flatMap]
  exact Requires.map (.mapM fun name _ => name_requires name) _

section

variable {program : Program} (sound : program.IsSound)
include sound

/-- The functions of a plan are rendered in any case: their own names and those of the enums can stand as
identifiers. -/
theorem renderFunctions_ok {task : MappingTask} (usable : task.IsNamed) (sameSchema : task.schema = program.host.schema)
    {id : TypeId} (laidOut : task.destinationStruct.IsLaidOut id) : ∃ conversions,
      task.resolve.plan.enumFunctions.mapM (renderFunction program.host.schema) = .ok conversions := by
  have needs := task.plan_needsFunctions laidOut
  have isEnum {id : TypeId} {variants : List String} (known : task.schema.variants? id = some variants) :
      IsUsable (program.host.schema.identOf id) ∧ ∀ variant ∈ variants, IsUsable variant := by
    rw [sameSchema] at known
    have ofVariants := sound.host.variants id variants known
    obtain ⟨descriptor, found, _⟩ := Option.bind_eq_some_iff.mp known
    rw [Schema.identOf, found]
    exact ⟨sound.host.ident id descriptor found, ofVariants⟩
  refine (mapM_succeeds _ _).mpr fun function present => (renderFunction_requires _ function).ok_iff.mpr ?_
  obtain ⟨isSource, _, isDestination, _⟩ := needs.variants function present
  obtain ⟨sourceUsable, variantsUsable⟩ := isEnum isSource
  rw [List.forall_mem_map]
  refine List.forall_mem_cons.mpr ⟨MappingTask.enumFunctions_usable usable function present, ?_⟩
  exact List.forall_mem_cons.mpr ⟨sourceUsable, List.forall_mem_cons.mpr ⟨(isEnum isDestination).1, variantsUsable⟩⟩

/-- Whether a resolved mapper without errors is rendered depends on what is open in its plan and on the names of the
mappers that it includes. -/
theorem renderMapper_requires {all : List ResolvedMapper} (resolved : program.resolve = .ok all) {one : ResolvedMapper}
    (present : one ∈ all) (clean : one.hasErrors = false) :
    Requires (one.openNeeds program.host.schema) (renderMapper program.host one) := by
  obtain ⟨isMapper, isIncluded, oneResolved⟩ := resolve_mem resolved present
  obtain ⟨draft, built⟩ := sound.built
  obtain ⟨task, id, accepted, laidOut, same⟩ := Request.resolve_task _ draft _ _ built oneResolved
  have sameSchema := (Request.toTask_ok _ _ _ accepted).sameSchema
  have noErrors : ∀ diagnostic ∈ task.resolve.diagnostics, diagnostic.isError = false := by
    intro diagnostic member
    rw [← same] at member
    have noError := List.any_eq_false.mp clean diagnostic (List.mem_append_right _ member)
    simpa using noError
  obtain ⟨call, fits⟩ := MappingTask.resolve_fits laidOut noErrors
  obtain ⟨offered, offeredFound⟩ := sourceMethod_ok (sound.mappers _ isMapper).declared
  have fields : Requires (one.included.map fun other => smallNeed other.name) (one.included.mapM mapperField) := by
    rw [List.map_eq_flatMap]
    exact .mapM fun included _ => mapperField_requires included
  refine fields.bind fun found made => ?_
  -- From here on the mapper has fields, so that their names are usable.
  have fieldsMet := fields.ok_iff.mp ⟨found, made⟩
  have usable :=
    task_isNamed sound isMapper isIncluded (fun _ isOther => fieldsMet _ (List.mem_map_of_mem isOther)) accepted
  obtain ⟨conversions, conversionsMade⟩ := renderFunctions_ok sound usable sameSchema laidOut
  have writesTo := MappingTask.plan_writesToUsable usable fits.planned
  have bodyNeeds := (bodyWith_needs fits laidOut writesTo ⟨program.host, one.mapper.method.params⟩).ofOpen ?within
    (MappingTask.plan_needs usable)
  rw [← same] at conversionsMade fits bodyNeeds
  rw [conversionsMade, offeredFound, body_eq accepted fits.planned, ← sameSchema]
  exact bodyNeeds.map _
  case within =>
    intro need isOpen
    obtain ⟨value, isValue, isOpen⟩ := List.mem_flatMap.mp isOpen
    exact List.mem_flatMap.mpr ⟨value, isValue, value.openNeeds_within _ isOpen⟩

end

/-- The mappers that resolved mappers include are those of the program, in their order. -/
theorem resolve_included {program : Program} {file : SourceFile} (read : ofFile file = .ok program)
    {all : List ResolvedMapper} (resolved : program.resolve = .ok all) : all.map (·.included) = program.included := by
  obtain ⟨noProblems, rfl⟩ := Checked.toExcept_ok.mp resolved
  have inOrder := Checked.gather_map_ok _ (fun _ _ => resolveMapper_error) noProblems
  have sameLength : program.mappers.length = program.included.length := by
    obtain ⟨_, _, inclusions⟩ := ofFile_ok read
    rw [included, List.length_map]
    exact (Inclusion.resolve_ok inclusions).2.length_eq
  refine Eq.trans (forall₂_map_eq inOrder ?_) (List.map_snd_zip sameLength.ge)
  rintro ⟨mapper, included⟩ one made
  obtain ⟨resolution, _, rfl⟩ := resolveMapper_ok made
  rfl

/-- What code for a program without errors needs: its texts, and the names that it takes into small letters. -/
def openNeeds (program : Program) (report : Report) : List Need :=
  report.userTexts.map .expression ++ (program.takenNames report).map smallNeed

theorem mem_openNeeds {program : Program} {report : Report} {need : Need} : need ∈ program.openNeeds report ↔
    (∃ included ∈ program.included, ∃ other ∈ included, smallNeed other.name = need) ∨
      ∃ mapper ∈ report.mappers, need ∈ mapper.plan.openNeeds program.host.schema := by
  simp only [openNeeds, takenNames, Report.userTexts, List.map_append, List.mem_append, List.mem_map, List.mem_flatMap,
    List.mem_flatten, Plan.mem_openNeeds]
  constructor
  · rintro (⟨text, ⟨mapper, isMapper, isText⟩, rfl⟩ | ⟨_, ⟨other, ⟨included, isIncluded, isOther⟩, rfl⟩, rfl⟩ |
      ⟨ident, ⟨mapper, isMapper, isNamesake⟩, rfl⟩)
    · exact .inr ⟨mapper, isMapper, .inl ⟨text, isText, rfl⟩⟩
    · exact .inl ⟨included, isIncluded, other, isOther, rfl⟩
    · exact .inr ⟨mapper, isMapper, .inr ⟨ident, isNamesake, rfl⟩⟩
  · rintro (⟨included, isIncluded, other, isOther, rfl⟩ |
      ⟨mapper, isMapper, ⟨text, isText, rfl⟩ | ⟨ident, isNamesake, rfl⟩⟩)
    · exact .inr (.inl ⟨_, ⟨other, ⟨included, isIncluded, isOther⟩, rfl⟩, rfl⟩)
    · exact .inl ⟨text, ⟨mapper, isMapper, isText⟩, rfl⟩
    · exact .inr (.inr ⟨ident, ⟨mapper, isMapper, isNamesake⟩, rfl⟩)

/-- What is taken into small letters is spelt with letters of identifiers. -/
theorem takenNames_letters {program : Program} (sound : program.IsSound) {report : Report} {name : String}
    (isTaken : name ∈ program.takenNames report) : HasLetters name := by
  obtain ofMapper | ofType := List.mem_append.mp isTaken
  · obtain ⟨other, isIncluded, rfl⟩ := List.mem_map.mp ofMapper
    obtain ⟨included, isIncluded, isOther⟩ := List.mem_flatten.mp isIncluded
    exact (isUsable_of_isName (sound.mappers other (included_subset isIncluded isOther)).name).hasLetters
  · obtain ⟨mapper, _, isNamesake⟩ := List.mem_flatMap.mp ofType
    obtain ⟨value, _, isNamesake⟩ := List.mem_filterMap.mp isNamesake
    obtain ⟨id, rfl⟩ := value.namesake?_ident isNamesake
    exact sound.host.letters id

theorem generate_requires {program : Program} (sound : program.IsSound) {file : SourceFile}
    (read : ofFile file = .ok program) {report : Report} (analyzed : program.analyze = .ok report)
    (clean : report.hasErrors = false) : Requires (program.openNeeds report) program.generate := by
  obtain ⟨all, resolved, same⟩ := (bind_ok _ _ _).mp analyzed
  cases same
  have noErrors : ∀ one ∈ all, one.hasErrors = false := by
    intro one present
    exact Bool.eq_false_iff.mpr (List.any_eq_false.mp clean _ (List.mem_map_of_mem present))
  have noProblems : all.flatMap (diagnosticProblems program.spans) = [] := by
    refine List.flatMap_eq_nil_iff.mpr fun one present => ?_
    have none := List.any_eq_false.mp (noErrors one present)
    rw [diagnosticProblems, List.map_eq_nil_iff, List.filter_eq_nil_iff]
    exact none
  have mappers : Requires (all.flatMap (·.openNeeds program.host.schema)) (all.mapM (renderMapper program.host)) :=
    .mapM fun one present => renderMapper_requires sound resolved present (noErrors one present)
  have sameNeeds : ∀ need, need ∈ program.openNeeds ⟨all.map program.mapperReport⟩ ↔
      need ∈ all.flatMap (·.openNeeds program.host.schema) := by
    intro need
    simp only [mem_openNeeds, ← resolve_included read resolved, List.mem_map, exists_exists_and_eq_and,
      List.mem_flatMap, ResolvedMapper.openNeeds, List.mem_append, ← exists_or, ← and_or_left]
    rfl
  rw [generate, resolved]
  change Requires _ (if (all.flatMap (diagnosticProblems program.spans)).isEmpty then _ else _)
  rw [noProblems, List.isEmpty_nil, if_pos rfl]
  exact (mappers.ofOpen (fun need => (sameNeeds need).mp) fun need needed => .inl ((sameNeeds need).mpr needed)).map _

end Program

/-- Code is generated from a source file without errors if and only if the texts of the user can be read again in the
form in which they enter the plans, and of each name that it takes into small letters the first letter or digit can
start an identifier. What is refused is one of these texts or names. -/
theorem generate_of_clean {text : String} {file : SourceFile} (read : SourceFile.ofText text = .ok file)
    {report : Report} (analyzed : analyze file = .ok report) (clean : report.hasErrors = false) :
    ∃ program, Program.ofFile file = .ok program ∧
      ((∃ code, generate file = .ok code) ↔ (∀ written ∈ report.userTexts, IsReadable written) ∧
        ∀ name ∈ program.takenNames report, Name.LeadsWithLetter name) ∧
      ∀ fault, generate file = .error fault →
        (∃ written ∈ report.userTexts, ∃ reason, expressionTokens written = .error reason ∧
          fault = .problems [⟨Location.startOfText, .rendering (.unreadable written reason.message)⟩]) ∨
        ∃ name ∈ program.takenNames report, ¬Name.LeadsWithLetter name ∧
          fault = .invalidName (Name.ofText name).snakeCase := by
  obtain ⟨program, programRead, analyzed⟩ := (bind_ok _ _ _).mp analyzed
  have sound := Program.ofFile_isSound (SourceFile.ofText_isRead read) programRead
  have requires : Requires (program.openNeeds report) (generate file) := by
    rw [generate, programRead]
    exact Program.generate_requires sound programRead analyzed clean
  have leads : ∀ name ∈ program.takenNames report, IsUsable (Name.ofText name).snakeCase ↔ Name.LeadsWithLetter name :=
    fun name isTaken => isUsable_snakeCase (Program.takenNames_letters sound isTaken)
  refine ⟨program, programRead, ?_, fun fault refused => ?_⟩
  · rw [requires.ok_iff, Program.openNeeds, List.forall_mem_append, List.forall_mem_map, List.forall_mem_map]
    exact and_congr Iff.rfl (forall₂_congr leads)
  · rw [refused] at requires
    cases requires with
    | refused need fault member refuses =>
        obtain ofText | ofName := List.mem_append.mp member
        · obtain ⟨written, isText, rfl⟩ := List.mem_map.mp ofText
          cases refuses with
          | expression _ reason failed => exact .inl ⟨written, isText, reason, failed, rfl⟩
        · obtain ⟨name, isTaken, rfl⟩ := List.mem_map.mp ofName
          cases refuses with
          | identifier _ unusable =>
              exact .inr ⟨name, isTaken, fun starts => unusable ((leads name isTaken).mpr starts), rfl⟩

/-- A mapper that relays kinds and counts them. It includes the one that undoes this. -/
def countText : String :=
  "#[mapper] trait Undo \x7b fn map(total: &Total) -> Sum; \x7d #[mapper] trait Count " ++
    "\x7b fn map(sum: &Sum) -> Total; fn new() \x7b include_mappers([Undo]); " ++
    "map_member(|t| t.count, |s| s.kinds.len()); \x7d \x7d enum Kind \x7b First \x7d enum Sort \x7b First \x7d " ++
    "struct Sum \x7b pub kinds: Vec<Kind> \x7d struct Total \x7b pub kinds: Vec<Sort>, pub count: usize \x7d"

/-- The code is generated: the names begin with letters, and the count can be read. -/
theorem generate_of_clean_count :
    ∃ file report program, SourceFile.ofText countText = .ok file ∧ analyze file = .ok report ∧
      report.hasErrors = false ∧ Program.ofFile file = .ok program ∧
        program.takenNames report = ["Undo", "Sort", "Kind"] ∧ report.userTexts = ["sum . kinds . len ()"] ∧
          ∃ code, generate file = .ok code := by
  have clean : passes (fun file => passes (fun program => passes (fun report => !report.hasErrors &&
      decide (program.takenNames report = ["Undo", "Sort", "Kind"] ∧ report.userTexts = ["sum . kinds . len ()"]))
      program.analyze) (Program.ofFile file)) (SourceFile.ofText countText) = true := by
    have chars : CharsOf countText _ := .append (.append (.append (.literal _) _) _) _
    rw [SourceFile.ofText_chars chars]
    decide +kernel
  have readable : passes (fun _ => true) (expressionTokens "sum . kinds . len ()") = true := by decide +kernel
  obtain ⟨file, read, clean⟩ := passes_iff.mp clean
  obtain ⟨program, programRead, clean⟩ := passes_iff.mp clean
  obtain ⟨report, reported, clean⟩ := passes_iff.mp clean
  rw [Bool.and_eq_true, Bool.not_eq_true', decide_eq_true_eq] at clean
  obtain ⟨noErrors, taken, texts⟩ := clean
  have analyzed : analyze file = .ok report := by rw [analyze, programRead]; exact reported
  refine ⟨file, report, program, read, analyzed, noErrors, programRead, taken, texts, ?_⟩
  obtain ⟨other, otherRead, generates, _⟩ := generate_of_clean read analyzed noErrors
  obtain rfl := Except.ok.inj (programRead.symm.trans otherRead)
  rw [generates, taken, texts]
  refine ⟨List.forall_mem_singleton.mpr ?_, by decide⟩
  obtain ⟨tokens, isRead, _⟩ := passes_iff.mp readable
  exact ⟨tokens, isRead⟩

/-- The analysis of the text finds no errors, but code for it is refused with a fault that passes the test. -/
def refusesClean (text : String) (test : GenerationFault → Bool) : Bool :=
  passes (fun file => passes (fun report => !report.hasErrors) (analyze file) && refuses test (generate file))
    (SourceFile.ofText text)

theorem refusesClean_exists {text : String} {test : GenerationFault → Bool} (found : refusesClean text test = true) :
    ∃ file report fault, SourceFile.ofText text = .ok file ∧ analyze file = .ok report ∧ report.hasErrors = false ∧
      generate file = .error fault ∧ test fault = true := by
  obtain ⟨file, read, found⟩ := passes_iff.mp found
  obtain ⟨clean, refused⟩ := Bool.and_eq_true_iff.mp found
  obtain ⟨report, analyzed, noErrors⟩ := passes_iff.mp clean
  obtain ⟨fault, refused, passed⟩ := refuses_iff.mp refused
  exact ⟨file, report, fault, read, analyzed, by simpa using noErrors, refused, passed⟩

/-- A mapper whose parameter gets into a string of bytes, where its letter cannot stand. -/
def clashText : String :=
  "#[mapper] trait Clash \x7b fn map(ö: &Source) -> Target; " ++
    "fn new() \x7b map_member(|t| t.code, |o| f(b\"o\")); \x7d \x7d " ++
    "pub struct Source \x7b pub id: String \x7d pub struct Target \x7b pub code: String \x7d"

/-- Code can be refused although the analysis finds no errors. -/
theorem generate_refuses_clean :
    ∃ file report, SourceFile.ofText clashText = .ok file ∧ analyze file = .ok report ∧
      report.hasErrors = false ∧ generate file = .error (.problems [⟨Location.startOfText,
        .rendering (.unreadable "f (b\"ö\")" "cannot parse string into token stream")⟩]) := by
  have refused : refusesClean clashText (fun fault => decide (fault = unreadable "f (b\"ö\")" .noTokens)) = true := by
    have chars : CharsOf clashText _ := .append (.append (.literal _) _) _
    rw [refusesClean, SourceFile.ofText_chars chars]
    decide +kernel
  obtain ⟨file, report, fault, read, analyzed, noErrors, refused, isFault⟩ := refusesClean_exists refused
  obtain rfl := of_decide_eq_true isFault
  exact ⟨file, report, read, analyzed, noErrors, refused⟩

/-- A mapper over a collection of values of an enum whose name has no letter. -/
def unletteredText : String :=
  "#[mapper] trait Relay \x7b fn map(source: &Source) -> Target; \x7d " ++
    "pub enum _1 \x7b Plain \x7d pub enum Kind \x7b Plain \x7d " ++
    "pub struct Source \x7b pub kinds: Vec<_1> \x7d pub struct Target \x7b pub kinds: Vec<Kind> \x7d"

/-- Code can be refused for a name that no identifier is made of, although the analysis finds no errors. -/
theorem generate_refuses_unlettered :
    ∃ file report, SourceFile.ofText unletteredText = .ok file ∧ analyze file = .ok report ∧
      report.hasErrors = false ∧ generate file = .error (.invalidName "1") := by
  have refused : refusesClean unletteredText (fun fault => decide (fault = .invalidName "1")) = true := by
    have chars : CharsOf unletteredText _ := .append (.append (.literal _) _) _
    rw [refusesClean, SourceFile.ofText_chars chars]
    decide +kernel
  obtain ⟨file, report, fault, read, analyzed, noErrors, refused, isFault⟩ := refusesClean_exists refused
  obtain rfl := of_decide_eq_true isFault
  exact ⟨file, report, read, analyzed, noErrors, refused⟩

/-- The tokens of generated code, which stand in no text. -/
def GeneratedCode.tokens (code : GeneratedCode) : List Token :=
  code.lexemes.map fun lexeme => ⟨lexeme, Location.startOfText⟩

/-- A mapper over a collection of values of an enum whose name is a keyword once it is written small. -/
def keywordText : String :=
  "#[mapper] trait Relay \x7b fn map(source: &Source) -> Target; \x7d " ++
    "pub enum Type \x7b Plain \x7d pub enum Kind \x7b Plain \x7d " ++
    "pub struct Source \x7b pub kinds: Vec<Type> \x7d pub struct Target \x7b pub kinds: Vec<Kind> \x7d"

/-- Generated code need not be a source file: what maps the elements of a collection is a closure whose
parameter has the name of their type, written small, and that can be a keyword. -/
theorem generate_bindsKeyword :
    ∃ file code, SourceFile.ofText keywordText = .ok file ∧ generate file = .ok code ∧
      SourceFile.ofTokens code.tokens = .error (.missing "pattern" false) := by
  have refused : passes (fun file => passes (fun code =>
      refuses (fun fault => decide (fault = .missing "pattern" false)) (SourceFile.ofTokens code.tokens))
      (generate file)) (SourceFile.ofText keywordText) = true := by
    have chars : CharsOf keywordText _ := .append (.append (.literal _) _) _
    rw [SourceFile.ofText_chars chars]
    decide +kernel
  obtain ⟨file, read, refused⟩ := passes_iff.mp refused
  obtain ⟨code, generated, refused⟩ := passes_iff.mp refused
  obtain ⟨fault, refused, isMissing⟩ := refuses_iff.mp refused
  exact ⟨file, code, read, generated, of_decide_eq_true isMissing ▸ refused⟩

end ObjectMapping
