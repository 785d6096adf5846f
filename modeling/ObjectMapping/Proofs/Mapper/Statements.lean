/-
This file accounts for the statements of a configuration. Each gives one directive of a mapper or one diagnostic,
and both are kept in the order of the statements. Of several configurations it is the last that counts.
-/

import Mathlib.Data.List.Induction
import ObjectMapping.Proofs.Mapper.Declaration
import ObjectMapping.Proofs.Mapper.Instruction
import ObjectMapping.Source.File

namespace ObjectMapping

open Source

namespace Source

/-- The statements of the configuration, if the member is one: the function `new` with a body. -/
def TraitMember.configuration? : TraitMember → Option (List Statement)
  | .function _ signature (some body) => if signature.name == "new" then some body else none
  | _ => none

def TraitItem.configurations (item : TraitItem) : List (List Statement) := item.members.filterMap (·.configuration?)

end Source

namespace Mapper

namespace Instruction

@[simp]
def mapMember? : Instruction → Option MapMember
  | .mapMember directive => some directive
  | _ => Option.none

@[simp]
def ignoreMember? : Instruction → Option IgnoreMember
  | .ignoreMember directive => some directive
  | _ => Option.none

@[simp]
def mapCollection? : Instruction → Option MapCollection
  | .mapCollection directive => some directive
  | _ => Option.none

@[simp]
def choice? : Instruction → Option ConstructorChoice
  | .chooseConstructor choice => some choice
  | _ => Option.none

@[simp]
def inclusions : Instruction → List Inclusion
  | .includeMappers inclusions => inclusions
  | _ => []

@[simp]
def mapEnum? : Instruction → Option MapEnum
  | .mapEnum directive => some directive
  | _ => Option.none

/-- What is reported of a statement that calls no directive. -/
@[simp]
def diagnostic? (mapper : String) : Instruction → Option Diagnostic
  | .none location => some (.error location (.invalidConstructorStatement mapper))
  | _ => Option.none

end Instruction

/-- The directives of each kind are those that the instructions give, in their order, and the constructor is chosen
at most once. -/
structure RecordsDirectives (directives : Directives) (inclusions : List Inclusion) (given : List Instruction) :
    Prop where
  mapMembers : directives.mapMembers = given.filterMap (·.mapMember?)
  ignores : directives.ignores = given.filterMap (·.ignoreMember?)
  collections : directives.collections = given.filterMap (·.mapCollection?)
  constructor : directives.constructor.toList = given.filterMap (·.choice?)
  inclusions : inclusions = given.flatMap (·.inclusions)
  enums : directives.enums = given.filterMap (·.mapEnum?)

namespace Configuration

/-- Everything in the configuration comes from the instructions. -/
structure Records (mapper : String) (configuration : Configuration) (given : List Instruction) : Prop where
  directives : RecordsDirectives configuration.directives configuration.inclusions given
  diagnostics : configuration.diagnostics = given.filterMap (·.diagnostic? mapper)

theorem empty_records (mapper : String) : empty.Records mapper [] := ⟨⟨rfl, rfl, rfl, rfl, rfl, rfl⟩, rfl⟩

/-- An instruction is recorded behind the earlier ones. -/
theorem Records.add {mapper : String} {configuration extended : Configuration} {given : List Instruction}
    (records : configuration.Records mapper given) {next : Instruction}
    (added : add mapper configuration next = .ok extended) : extended.Records mapper (given ++ [next]) := by
  obtain ⟨⟨mapMembers, ignores, collections, constructor, inclusions, enums⟩, diagnostics⟩ := records
  cases next with
  | chooseConstructor choice =>
      rw [Configuration.add] at added
      split at added
      · cases added
      · next notChosen =>
          cases added
          have noChoice : given.filterMap (·.choice?) = [] := by
            rw [← constructor, Option.not_isSome_iff_eq_none.mp notChosen, Option.toList_none]
          constructor
          · constructor
            case constructor =>
              rw [List.filterMap_append, noChoice]
              rfl
            all_goals simp [*]
          · simp [diagnostics]
  | mapMember | ignoreMember | mapCollection | includeMappers | mapEnum | none =>
      cases added
      constructor
      · constructor <;> simp [*]
      · simp [diagnostics]

theorem locate_records {mapper : String} {configuration : Configuration} {given : List Instruction}
    (records : configuration.Records mapper given) (statement : Statement) (next : Instruction) :
    (configuration.locate statement next).Records mapper given := ⟨records.directives, records.diagnostics⟩

/-- A statement without a problem is recorded as what it says. -/
theorem addStatement_records {host : Host} {mapper : String} {checked : Checked Configuration} {statement : Statement}
    (noProblems : (addStatement host mapper checked statement).problems = []) :
    checked.problems = [] ∧ ∃ next, Says host statement next ∧ ∀ given, checked.value.Records mapper given →
      (addStatement host mapper checked statement).value.Records mapper (given ++ [next]) := by
  unfold addStatement at noProblems ⊢
  split at noProblems
  · next extended read =>
      obtain ⟨next, understood, added⟩ := (bind_ok _ _ _).mp read
      refine ⟨noProblems, next, instruction_says understood, fun given records => ?_⟩
      exact (locate_records records statement next).add added
  · cases List.append_eq_nil_iff.mp noProblems |>.2

/-- The configuration of statements without problems records what each of them says, in their order. -/
theorem ofStatements_records {host : Host} {mapper : String} (statements : List Statement)
    (noProblems : (ofStatements host mapper statements).problems = []) :
    ∃ given, List.Forall₂ (Says host) statements given ∧
      (ofStatements host mapper statements).value.Records mapper given := by
  induction statements using List.reverseRecOn with
  | nil => exact ⟨[], .nil, empty_records mapper⟩
  | append_singleton earlier statement inductionHypothesis =>
      rw [ofStatements, List.foldl_append, List.foldl_cons, List.foldl_nil, ← ofStatements] at noProblems ⊢
      obtain ⟨noneEarlier, next, isSaid, isExtended⟩ := addStatement_records noProblems
      obtain ⟨given, allSay, records⟩ := inductionHypothesis noneEarlier
      exact ⟨given ++ [next], List.rel_append allSay (.cons isSaid .nil), isExtended given records⟩

end Configuration

theorem Instruction.diagnostic?_id {mapper : String} {given : Instruction} {diagnostic : Diagnostic}
    (reported : given.diagnostic? mapper = some diagnostic) : diagnostic.id = .invalidConstructorStatement := by
  cases given with
  | none location =>
      cases reported
      rfl
  | mapMember | ignoreMember | mapCollection | chooseConstructor | includeMappers | mapEnum => cases reported

namespace Members

/-- A configuration takes the place of an earlier one. -/
theorem add_configuration (host : Host) (mapper : String) (checked : Checked Members) (member : TraitMember) :
    (add host mapper checked member).value.configuration =
      member.configuration?.getD checked.value.configuration := by
  cases member with
  | other => rfl
  | function tokens signature body =>
      cases body with
      | some statements =>
          rw [add, TraitMember.configuration?]
          split
          · rfl
          · rfl
      | none =>
          simp only [add]
          split
          · rfl
          · split <;> rfl

/-- The configuration of a trait is the last of those in it. -/
theorem configuration_ofMembers (host : Host) (mapper : String) (members : List TraitMember) :
    (members.foldl (add host mapper) ⟨none, []⟩).value.configuration =
      (members.filterMap (·.configuration?)).getLast?.getD [] := by
  induction members using List.reverseRecOn with
  | nil => rfl
  | append_singleton earlier member inductionHypothesis =>
      rw [List.foldl_append, List.foldl_cons, List.foldl_nil, add_configuration, inductionHypothesis,
        List.filterMap_append, List.filterMap_cons]
      cases member.configuration? with
      | some statements => simp
      | none => simp

/-- Nothing is said yet about the statements of the configuration. -/
def NoStatements (members : Members) : Prop :=
  ∀ diagnostic ∈ members.diagnostics, diagnostic.id ≠ .invalidConstructorStatement

theorem report_noStatements {members : Members} (noStatements : members.NoStatements) (location : Location)
    {finding : Finding} (other : finding.id ≠ .invalidConstructorStatement) :
    (members.report location finding).NoStatements := by
  intro diagnostic present
  obtain before | new := List.mem_append.mp present
  · exact noStatements diagnostic before
  · cases List.mem_singleton.mp new
    exact other

theorem add_noStatements {host : Host} {mapper : String} {checked : Checked Members}
    (noStatements : checked.value.NoStatements) (member : TraitMember) :
    (add host mapper checked member).value.NoStatements := by
  cases member with
  | other => exact noStatements
  | function tokens signature body =>
      cases body with
      | some statements =>
          rw [add]
          split
          · dsimp only [configure]
            split
            · exact noStatements
            · exact report_noStatements noStatements _ (fun same => by cases same)
          · exact noStatements
      | none =>
          simp only [add]
          split
          · exact report_noStatements noStatements _ (fun same => by cases same)
          · split
            · exact noStatements
            · exact noStatements

theorem noStatements_ofMembers (host : Host) (mapper : String) (members : List TraitMember) :
    (members.foldl (add host mapper) ⟨none, []⟩).value.NoStatements :=
  List.foldlRecOn (motive := fun (checked : Checked Members) => checked.value.NoStatements) members _ nofun
    fun _ noStatements member _ => add_noStatements noStatements member

end Members

/-- Each of the statements is recorded in the mapper as what it says: as one directive, or as one diagnostic if it
calls none, in the order of the statements. -/
def Records (host : Host) (mapper : Mapper) (statements : List Statement) : Prop :=
  ∃ given, List.Forall₂ (Says host) statements given ∧
    RecordsDirectives mapper.directives mapper.inclusions given ∧
      mapper.diagnostics.filter (·.id == .invalidConstructorStatement) = given.filterMap (·.diagnostic? mapper.name)

/-- A mapper records every statement of its last configuration. -/
theorem ofTrait_records {host : Host} {item : TraitItem} {mapper : Mapper}
    (declared : ofTrait host item = .ok mapper) : mapper.Records host (item.configurations.getLast?.getD []) := by
  obtain ⟨members, configuration, made⟩ := ofTrait_ok declared
  have areLast := Members.configuration_ofMembers host item.name item.members
  have noStatements := Members.noStatements_ofMembers host item.name item.members
  rw [made.read] at areLast noStatements
  have noProblems : (Configuration.ofStatements host item.name members.configuration).problems = [] := by
    rw [made.configured]
  obtain ⟨given, allSay, records⟩ := Configuration.ofStatements_records members.configuration noProblems
  rw [made.configured] at records
  refine ⟨given, ?_, made.directives ▸ made.inclusions ▸ records.directives, ?_⟩
  · rw [TraitItem.configurations, ← areLast]
    exact allSay
  · have ofMembers : members.diagnostics.filter (·.id == .invalidConstructorStatement) = [] :=
      List.filter_eq_nil_iff.mpr fun diagnostic present isOther =>
        noStatements diagnostic present (beq_iff_eq.mp isOther)
    rw [made.diagnostics, made.name, List.filter_append, ofMembers, List.nil_append, records.diagnostics,
      List.filter_eq_self]
    intro diagnostic present
    obtain ⟨_, _, reported⟩ := List.mem_filterMap.mp present
    exact beq_iff_eq.mpr (Instruction.diagnostic?_id reported)

/-- Some trait in the source text declares a mapper, without any types, that passes the test. -/
def declaresMapper (text : String) (test : TraitItem → Mapper → Bool) : Bool :=
  passes (fun host => passes (fun file => file.items.any fun declared =>
    match declared.item with
    | .trait item => passes (test item) (ofTrait host item)
    | _ => false) (SourceFile.ofText text)) (Host.ofItems [])

theorem declaresMapper_exists {text : String} {test : TraitItem → Mapper → Bool}
    (found : declaresMapper text test = true) :
    ∃ host item mapper, ofTrait host item = .ok mapper ∧ test item mapper = true := by
  obtain ⟨host, _, found⟩ := passes_iff.mp found
  obtain ⟨file, _, found⟩ := passes_iff.mp found
  obtain ⟨declared, _, found⟩ := List.any_eq_true.mp found
  split at found
  · next item _ =>
      obtain ⟨mapper, isMapper, passed⟩ := passes_iff.mp found
      exact ⟨host, item, mapper, isMapper, passed⟩
  · cases found

/-- Three directives and a statement that is none. -/
def rowMapper : String :=
  "trait ToRow \x7b fn map(user: &User) -> Row; fn new() \x7b ignore_member(|d| d.note); let spare = 1; " ++
    "include_mappers([First, Second]); ignore_member(|d| d.tag); \x7d \x7d"

theorem ofTrait_records_row : ∃ host item mapper, ofTrait host item = .ok mapper ∧
    mapper.Records host (item.configurations.getLast?.getD []) ∧
      mapper.directives.ignores.map (·.member) = ["note", "tag"] ∧
        mapper.inclusions.map (·.name) = ["First", "Second"] ∧
          mapper.diagnostics.map (·.id) = [.invalidConstructorStatement] := by
  have found : declaresMapper rowMapper (fun _ mapper =>
      decide (mapper.directives.ignores.map (·.member) = ["note", "tag"] ∧
        mapper.inclusions.map (·.name) = ["First", "Second"] ∧
          mapper.diagnostics.map (·.id) = [.invalidConstructorStatement])) = true := by
    have chars : CharsOf rowMapper _ := .append (.literal _) _
    rw [declaresMapper, SourceFile.ofText_chars chars]
    decide +kernel
  obtain ⟨host, item, mapper, declared, found⟩ := declaresMapper_exists found
  exact ⟨host, item, mapper, declared, ofTrait_records declared, of_decide_eq_true found⟩

/-- The second configuration hides the first one. -/
def twiceConfigured : String :=
  "trait ToRow \x7b fn map(user: &User) -> Row; fn new() \x7b ignore_member(|d| d.note); \x7d fn new() \x7b\x7d \x7d"

theorem Says.ignoresMember {host : Host} {statement : Statement} {given : Instruction} {call : DirectiveCall}
    (isSaid : Says host statement given) (isCall : Statement.call? statement = some call)
    (ignores : call.directive = .ignoreMember) : ∃ directive, given = .ignoreMember directive := by
  cases isSaid with
  | nothing noCall => cases noCall.symm.trans isCall
  | directive found given isFound gives =>
      cases isFound.symm.trans isCall
      cases gives with
      | ignoreMember => exact ⟨_, rfl⟩
      | _ => simp_all

/-- The statements of an earlier configuration are dropped. -/
theorem ofTrait_records_differs :
    ¬∀ (host : Host) (item : TraitItem) (mapper : Mapper), ofTrait host item = .ok mapper →
      mapper.Records host item.configurations.flatten := by
  intro records
  have found : declaresMapper twiceConfigured (fun item mapper =>
      decide ((item.configurations.flatten.map fun statement => (Statement.call? statement).map (·.directive)) =
        [some .ignoreMember] ∧ mapper.directives.ignores = [])) = true := by
    decide +kernel
  obtain ⟨host, item, mapper, declared, found⟩ := declaresMapper_exists found
  obtain ⟨calls, noneIgnored⟩ := of_decide_eq_true found
  obtain ⟨statement, isOnly, calls⟩ := List.map_eq_singleton_iff.mp calls
  obtain ⟨call, isCall, ignores⟩ := Option.map_eq_some_iff.mp calls
  obtain ⟨given, allSay, directives, _⟩ := records host item mapper declared
  rw [isOnly] at allSay
  obtain ⟨next, rest, isSaid, _, rfl⟩ := List.forall₂_cons_left_iff.mp allSay
  obtain ⟨directive, rfl⟩ := isSaid.ignoresMember isCall ignores
  have isIgnored := directives.ignores
  rw [noneIgnored, List.filterMap_cons] at isIgnored
  cases isIgnored

end Mapper

end ObjectMapping
