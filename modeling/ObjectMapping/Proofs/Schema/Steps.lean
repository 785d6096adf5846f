/-
This file follows a draft through the steps that collect types, in any order and with any ids. What has been
declared and defined can be read from the steps alone, so the steps say whether the draft makes a schema.
-/

import ObjectMapping.Proofs.Concat
import ObjectMapping.Proofs.Schema.WellFormed

namespace ObjectMapping

inductive DraftStep
  | declare (ident : String)
  | define (id : TypeId) (definition : Definition)
  /-- Declares a name and defines it. -/
  | add (ident : String) (definition : Definition)
  deriving Repr, DecidableEq

namespace DraftStep

/-- The name that a step declares. -/
def ident? : DraftStep → Option String
  | .declare ident => some ident
  | .define _ _ => none
  | .add ident _ => some ident

/-- What a step defines, and where, if these are the names that are declared by then. -/
def definition? (names : List String) : DraftStep → Option (TypeId × Definition)
  | .declare _ => none
  | .define id definition => some (id, definition)
  | .add ident definition => some (⟨names.idxOf ident⟩, definition)

def run (draft : SchemaDraft) : DraftStep → SchemaDraft
  | .declare ident => (draft.declare ident).1
  | .define id definition => draft.define id definition
  | .add ident definition => (draft.add ident definition).1

/-- The id that a step returns. -/
def returned? (draft : SchemaDraft) : DraftStep → Option TypeId
  | .declare ident => some (draft.declare ident).2
  | .define _ _ => none
  | .add ident definition => some (draft.add ident definition).2

end DraftStep

def SchemaDraft.ofSteps (steps : List DraftStep) : SchemaDraft := steps.foldl DraftStep.run .empty

/-- The names that steps declare, in the order of their first declarations. -/
def declaredNames (steps : List DraftStep) : List String := (steps.filterMap DraftStep.ident?).eraseDups

/-- One of the steps declares a name and returns an id for it. -/
def StepsDeclare (steps : List DraftStep) (ident : String) (id : TypeId) : Prop :=
  ∃ before step after, steps = before ++ step :: after ∧
    step.ident? = some ident ∧ step.returned? (.ofSteps before) = some id

/-- One of the steps gives a definition for an id. -/
def StepsDefine (steps : List DraftStep) (id : TypeId) (definition : Definition) : Prop :=
  ∃ before step after, steps = before ++ step :: after ∧
    step.definition? (declaredNames (before ++ [step])) = some (id, definition)

/-- Every definition is given for an id that is declared by then and has not been given one before. -/
def IsPlaced (steps : List DraftStep) : Prop :=
  ∀ before step after, steps = before ++ step :: after → ∀ id definition,
    step.definition? (declaredNames (before ++ [step])) = some (id, definition) →
      id.index < (declaredNames (before ++ [step])).length ∧ ∀ earlier, ¬ StepsDefine before id earlier

section Declared

variable (steps : List DraftStep) (step : DraftStep)

theorem declaredNames_concat_none (declaresNone : step.ident? = none) :
    declaredNames (steps ++ [step]) = declaredNames steps := by
  simp [declaredNames, declaresNone]

theorem declaredNames_concat_some (ident : String) (declares : step.ident? = some ident) :
    declaredNames (steps ++ [step]) =
      if ident ∈ declaredNames steps then declaredNames steps else declaredNames steps ++ [ident] := by
  have ofStep : [step].filterMap DraftStep.ident? = [ident] := by simp [declares]
  rw [declaredNames, declaredNames, List.filterMap_append, ofStep, eraseDups_concat]
  simp only [List.mem_eraseDups]

theorem declaredNames_nodup : (declaredNames steps).Nodup :=
  eraseDups_nodup _

theorem mem_declaredNames (ident : String) :
    ident ∈ declaredNames steps ↔ ∃ step ∈ steps, step.ident? = some ident := by
  rw [declaredNames, List.mem_eraseDups, List.mem_filterMap]

/-- Names keep their places when further steps are taken. -/
theorem declaredNames_prefix (further : List DraftStep) :
    declaredNames steps <+: declaredNames (steps ++ further) := by
  rw [declaredNames, declaredNames, List.filterMap_append, List.eraseDups_append]
  exact List.prefix_append _ _

end Declared

namespace SchemaDraft

def names (draft : SchemaDraft) : List String := draft.slots.map (·.ident)

variable (draft : SchemaDraft)

/-- The id of a name depends on the names alone. -/
theorem typeId?_names (ident : String) :
    draft.typeId? ident = (draft.names.findIdx? (· == ident)).map TypeId.mk := by
  rw [names, List.findIdx?_map]
  rfl

theorem typeId?_some {ident : String} {id : TypeId} (found : draft.typeId? ident = some id) :
    ident ∈ draft.names ∧ id = ⟨draft.names.idxOf ident⟩ := by
  rw [typeId?_names] at found
  obtain ⟨index, place, rfl⟩ := Option.map_eq_some_iff.mp found
  obtain ⟨below, first⟩ := List.findIdx?_eq_some_iff_findIdx_eq.mp place
  have same : draft.names.idxOf ident = index := first
  exact ⟨List.idxOf_lt_length_iff.mp (by rw [same]; exact below), by rw [same]⟩

theorem typeId?_none {ident : String} (missing : draft.typeId? ident = none) : ident ∉ draft.names := by
  intro present
  obtain ⟨slot, isSlot, rfl⟩ := List.mem_map.mp present
  have absent := List.findIdx?_eq_none_iff.mp (Option.map_eq_none_iff.mp missing) slot isSlot
  simp at absent

/-- Declaring a name puts it behind the others, if it is not there. -/
theorem declare_names (ident : String) :
    (draft.declare ident).1.names =
      if ident ∈ draft.names then draft.names else draft.names ++ [ident] := by
  unfold declare
  cases found : draft.typeId? ident with
  | some id => simp [(draft.typeId?_some found).1]
  | none =>
      rw [if_neg (draft.typeId?_none found)]
      simp [names]

/-- The id of a declared name is its place among the names. -/
theorem declare_id (ident : String) :
    (draft.declare ident).2 = ⟨(draft.declare ident).1.names.idxOf ident⟩ := by
  rw [declare_names]
  unfold declare
  cases found : draft.typeId? ident with
  | some id =>
      obtain ⟨present, rfl⟩ := draft.typeId?_some found
      rw [if_pos present]
  | none =>
      have absent := draft.typeId?_none found
      rw [if_neg absent, List.idxOf_append_of_notMem absent]
      simp [names]

theorem declare_misplaced (ident : String) : (draft.declare ident).1.misplaced = draft.misplaced := by
  unfold declare
  cases draft.typeId? ident <;> rfl

theorem declare_defines (ident : String) (id : TypeId) (definition : Definition) :
    (draft.declare ident).1.Defines id definition ↔ draft.Defines id definition := by
  unfold declare
  cases draft.typeId? ident with
  | some found => rfl
  | none =>
      have undefined : ∀ other, ([⟨ident, none⟩] : List Slot)[id.index - draft.slots.length]? ≠
          some ⟨other, some definition⟩ := by
        intro other found
        have isLast := List.mem_of_getElem? found
        simp at isLast
      simp only [Defines, List.getElem?_append]
      split
      · rfl
      · next outside =>
          rw [List.getElem?_eq_none (Nat.le_of_not_lt outside)]
          exact ⟨fun ⟨other, found⟩ => absurd found (undefined other), nofun⟩

/-- A definition is misplaced, where there is no place or an earlier definition, or takes an empty place. -/
theorem define_cases (id : TypeId) (definition : Definition) :
    ((∃ name, draft.define id definition = { draft with misplaced := draft.misplaced ++ [name] }) ∧
      (draft.slots.length ≤ id.index ∨ ∃ earlier, draft.Defines id earlier)) ∨
    ∃ ident, draft.slots[id.index]? = some ⟨ident, none⟩ ∧
      draft.define id definition = { draft with slots := draft.slots.set id.index ⟨ident, some definition⟩ } := by
  unfold define
  cases found : draft.slots[id.index]? with
  | none => exact .inl ⟨⟨_, rfl⟩, .inl (List.getElem?_eq_none_iff.mp found)⟩
  | some slot =>
      obtain ⟨ident, _ | earlier⟩ := slot
      · exact .inr ⟨ident, rfl, rfl⟩
      · exact .inl ⟨⟨ident, rfl⟩, .inr ⟨earlier, ident, found⟩⟩

theorem define_names (id : TypeId) (definition : Definition) :
    (draft.define id definition).names = draft.names := by
  obtain ⟨⟨name, defined⟩, _⟩ | ⟨ident, found, defined⟩ := draft.define_cases id definition
  · rw [defined]
    rfl
  · obtain ⟨below, same⟩ := List.getElem?_eq_some_iff.mp found
    have inNames : id.index < (draft.slots.map (·.ident)).length := by simpa using below
    have sameIdent : (draft.slots.map (·.ident))[id.index] = ident := by simp [same]
    rw [defined, names, List.map_set, ← sameIdent, List.set_getElem_self, names]

theorem define_misplaced (id : TypeId) (definition : Definition) :
    (draft.define id definition).misplaced = [] ↔
      draft.misplaced = [] ∧ id.index < draft.names.length ∧ ∀ earlier, ¬ draft.Defines id earlier := by
  have size : draft.names.length = draft.slots.length := List.length_map _
  obtain ⟨⟨name, defined⟩, taken⟩ | ⟨ident, found, defined⟩ := draft.define_cases id definition
  · rw [defined, size]
    constructor
    · intro noneMisplaced
      simp at noneMisplaced
    · rintro ⟨_, below, undefined⟩
      obtain outside | ⟨earlier, earlierDefined⟩ := taken
      · exact absurd below (Nat.not_lt_of_le outside)
      · exact absurd earlierDefined (undefined earlier)
  · rw [defined, size]
    refine ⟨fun placed => ⟨placed, (List.getElem?_eq_some_iff.mp found).1, ?_⟩, fun placed => placed.1⟩
    rintro earlier ⟨other, same⟩
    rw [found] at same
    cases same

theorem define_defines {id : TypeId} {definition : Definition}
    (placed : (draft.define id definition).misplaced = []) (other : TypeId) (found : Definition) :
    (draft.define id definition).Defines other found ↔
      draft.Defines other found ∨ (id, definition) = (other, found) := by
  obtain ⟨⟨name, defined⟩, _⟩ | ⟨ident, empty, defined⟩ := draft.define_cases id definition
  · rw [defined] at placed
    simp at placed
  · have below := (List.getElem?_eq_some_iff.mp empty).1
    rw [defined]
    simp only [Defines, List.getElem?_set]
    by_cases same : id = other
    · subst same
      simp only [below, if_true, empty]
      simp
    · have elsewhere : id.index ≠ other.index := fun sameIndex => same (congrArg TypeId.mk sameIndex)
      simp [elsewhere, same]

end SchemaDraft

namespace DraftStep

variable (draft : SchemaDraft) (step : DraftStep)

/-- A definition that is added with its name is given where the name stands. -/
theorem run_add (ident : String) (definition : Definition) :
    (add ident definition).run draft =
      (draft.declare ident).1.define ⟨(draft.declare ident).1.names.idxOf ident⟩ definition := by
  rw [← draft.declare_id]
  rfl

/-- A step declares a name, if it has one, and then gives a definition, if it has one. -/
theorem run_names_none (declaresNone : step.ident? = none) : (step.run draft).names = draft.names := by
  cases step with
  | define id definition => exact draft.define_names id definition
  | declare | add => cases declaresNone

theorem run_names_some (ident : String) (declares : step.ident? = some ident) :
    (step.run draft).names = if ident ∈ draft.names then draft.names else draft.names ++ [ident] := by
  rw [← draft.declare_names]
  cases step with
  | declare =>
      cases declares
      rfl
  | define => cases declares
  | add _ definition =>
      cases declares
      exact (draft.declare ident).1.define_names _ definition

/-- The id that is returned for a name is the place of the name. -/
theorem returned?_place (ident : String) (declares : step.ident? = some ident) :
    step.returned? draft = some ⟨(step.run draft).names.idxOf ident⟩ := by
  cases step with
  | declare =>
      cases declares
      exact congrArg some (draft.declare_id ident)
  | define => cases declares
  | add _ definition =>
      cases declares
      have sameNames : ((add ident definition).run draft).names = (draft.declare ident).1.names :=
        (draft.declare ident).1.define_names _ definition
      rw [sameNames]
      exact congrArg some (draft.declare_id ident)

/-- A step whose definition is set down as misplaced gives it for an id that is not declared or has one. -/
theorem run_misplaced :
    (step.run draft).misplaced = [] ↔
      draft.misplaced = [] ∧ ∀ id definition,
        step.definition? (step.run draft).names = some (id, definition) →
          id.index < (step.run draft).names.length ∧ ∀ earlier, ¬ draft.Defines id earlier := by
  cases step with
  | declare ident => simp [definition?, run, draft.declare_misplaced ident]
  | define id definition =>
      simp [definition?, run, draft.define_misplaced id definition, draft.define_names id definition]
  | add ident definition =>
      rw [run_add, SchemaDraft.define_names, SchemaDraft.define_misplaced, draft.declare_misplaced]
      simp [definition?, draft.declare_defines]

theorem run_defines {draft : SchemaDraft} {step : DraftStep} (placed : (step.run draft).misplaced = [])
    (id : TypeId) (definition : Definition) :
    (step.run draft).Defines id definition ↔
      draft.Defines id definition ∨ step.definition? (step.run draft).names = some (id, definition) := by
  cases step with
  | declare ident => simp [definition?, run, draft.declare_defines ident]
  | define other given => simp [definition?, run, draft.define_defines placed]
  | add ident given =>
      rw [run_add] at placed ⊢
      rw [SchemaDraft.define_names, SchemaDraft.define_defines _ placed, draft.declare_defines]
      simp [definition?]

end DraftStep

section Collected

variable (steps : List DraftStep)

theorem ofSteps_concat (step : DraftStep) :
    SchemaDraft.ofSteps (steps ++ [step]) = step.run (.ofSteps steps) := by
  rw [SchemaDraft.ofSteps, List.foldl_concat]
  rfl

theorem ofSteps_names : (SchemaDraft.ofSteps steps).names = declaredNames steps := by
  induction steps using List.reverseRecOn with
  | nil => rfl
  | append_singleton steps step inductionHypothesis =>
      rw [ofSteps_concat]
      cases declares : step.ident? with
      | none =>
          rw [declaredNames_concat_none steps step declares, ← inductionHypothesis]
          exact step.run_names_none _ declares
      | some ident =>
          rw [declaredNames_concat_some steps step ident declares, ← inductionHypothesis]
          exact step.run_names_some _ ident declares

theorem run_ofSteps_names (step : DraftStep) :
    (step.run (.ofSteps steps)).names = declaredNames (steps ++ [step]) := by
  rw [← ofSteps_concat, ofSteps_names]

theorem defines_concat (step : DraftStep) (id : TypeId) (definition : Definition) :
    StepsDefine (steps ++ [step]) id definition ↔
      StepsDefine steps id definition ∨
        step.definition? (declaredNames (steps ++ [step])) = some (id, definition) :=
  exists_split_concat (fun before (step : DraftStep) =>
    step.definition? (declaredNames (before ++ [step])) = some (id, definition)) steps step

theorem isPlaced_concat (step : DraftStep) :
    IsPlaced (steps ++ [step]) ↔
      IsPlaced steps ∧ ∀ id definition,
        step.definition? (declaredNames (steps ++ [step])) = some (id, definition) →
          id.index < (declaredNames (steps ++ [step])).length ∧ ∀ earlier, ¬ StepsDefine steps id earlier :=
  forall_split_concat (fun before (step : DraftStep) => ∀ id definition,
    step.definition? (declaredNames (before ++ [step])) = some (id, definition) →
      id.index < (declaredNames (before ++ [step])).length ∧ ∀ earlier, ¬ StepsDefine before id earlier)
    steps step

/-- As long as no definition is misplaced, the draft holds the definitions that were given, each where it
was given, and the next definition is misplaced if and only if it does not find its place. -/
theorem ofSteps_placed :
    ((SchemaDraft.ofSteps steps).misplaced = [] ↔ IsPlaced steps) ∧
      (IsPlaced steps → ∀ id definition,
        (SchemaDraft.ofSteps steps).Defines id definition ↔ StepsDefine steps id definition) := by
  induction steps using List.reverseRecOn with
  | nil =>
      refine ⟨⟨fun _ => ?_, fun _ => rfl⟩, fun _ id definition => ⟨?_, ?_⟩⟩
      · intro before step after split
        simp at split
      · rintro ⟨ident, found⟩
        cases found
      · rintro ⟨before, step, after, split, _⟩
        simp at split
  | append_singleton steps step inductionHypothesis =>
      obtain ⟨samePlaced, sameDefined⟩ := inductionHypothesis
      have placedIff : (SchemaDraft.ofSteps (steps ++ [step])).misplaced = [] ↔ IsPlaced (steps ++ [step]) := by
        rw [ofSteps_concat, step.run_misplaced, isPlaced_concat, samePlaced, run_ofSteps_names]
        refine and_congr_right fun placed => ?_
        simp only [sameDefined placed]
      refine ⟨placedIff, ?_⟩
      intro placed id definition
      have noneMisplaced := placedIff.mpr placed
      rw [ofSteps_concat] at noneMisplaced ⊢
      rw [step.run_defines noneMisplaced, defines_concat, run_ofSteps_names,
        sameDefined ((isPlaced_concat steps step).mp placed).1]

/-- The id that is returned for a name is the place of the name among all that are declared. -/
theorem declares_iff (ident : String) (id : TypeId) :
    StepsDeclare steps ident id ↔ (declaredNames steps)[id.index]? = some ident := by
  have place : ∀ before step after, steps = before ++ step :: after → step.ident? = some ident →
      ∃ index, step.returned? (.ofSteps before) = some ⟨index⟩ ∧
        (declaredNames steps)[index]? = some ident := by
    rintro before step after rfl declares
    have returned := step.returned?_place (.ofSteps before) ident declares
    rw [run_ofSteps_names] at returned
    refine ⟨_, returned, ?_⟩
    have present : ident ∈ declaredNames (before ++ [step]) :=
      (mem_declaredNames _ _).mpr ⟨step, by simp, declares⟩
    obtain ⟨further, whole⟩ := declaredNames_prefix (before ++ [step]) after
    rw [List.append_assoc, List.singleton_append] at whole
    rw [← whole, List.getElem?_append_left (List.idxOf_lt_length_iff.mpr present)]
    exact List.getElem?_idxOf present
  constructor
  · rintro ⟨before, step, after, split, declares, returned⟩
    obtain ⟨index, returnedIndex, found⟩ := place before step after split declares
    rw [returned] at returnedIndex
    cases returnedIndex
    exact found
  · intro found
    obtain ⟨step, isStep, declares⟩ := (mem_declaredNames steps ident).mp (List.mem_of_getElem? found)
    obtain ⟨before, after, split⟩ := List.mem_iff_append.mp isStep
    obtain ⟨index, returned, sameName⟩ := place before step after split declares
    have below := (List.getElem?_eq_some_iff.mp found).1
    have sameIndex := (List.getElem?_inj below (declaredNames_nodup steps)).mp (found.trans sameName.symm)
    exact ⟨before, step, after, split, declares, by rw [returned, ← sameIndex]⟩

end Collected

/-- A schema holds what steps declare: the ids are those that were returned, and a name and the id that was
returned for it lead to the same type. -/
structure Schema.HoldsDeclared (schema : Schema) (steps : List DraftStep) : Prop where
  returned : ∀ ident ∈ declaredNames steps, ∃ id, StepsDeclare steps ident id
  ids : ∀ id, (∃ descriptor, schema.get? id = some descriptor) ↔ ∃ ident, StepsDeclare steps ident id
  named : ∀ ident id, StepsDeclare steps ident id ↔
    ∃ descriptor, schema.typeNamed? ident = some descriptor ∧ descriptor.id = id ∧
      schema.get? id = some descriptor ∧ descriptor.ident = ident
  oneToOne : ∀ ident id other otherId, StepsDeclare steps ident id → StepsDeclare steps other otherId →
    (ident = other ↔ id = otherId)

namespace SchemaDraft

/-- A built type has the id and the name of its place. -/
theorem build_place {draft : SchemaDraft} {schema : Schema} (built : draft.build = .ok schema) (id : TypeId)
    {descriptor : TypeDescriptor} (found : schema.get? id = some descriptor) :
    descriptor.id = id ∧ draft.names[id.index]? = some descriptor.ident := by
  obtain ⟨⟨slot, atPlace, described⟩, _⟩ := draft.build_at schema built id descriptor found
  rw [names, List.getElem?_map, atPlace]
  obtain ⟨_, _, rfl⟩ | ⟨_, _, _, _, rfl⟩ := draft.describe_ok id slot descriptor described <;> exact ⟨rfl, rfl⟩

theorem build_names {draft : SchemaDraft} {schema : Schema} (built : draft.build = .ok schema) :
    schema.types.map (·.ident) = draft.names := by
  apply List.ext_getElem?
  intro index
  rw [List.getElem?_map]
  cases found : schema.types[index]? with
  | some descriptor => exact (build_place built ⟨index⟩ found).2.symm
  | none =>
      have outside := List.getElem?_eq_none_iff.mp found
      rw [build_length built] at outside
      exact (List.getElem?_eq_none (by rwa [names, List.length_map])).symm

/-- A built schema finds a name where the draft does. -/
theorem build_typeId? {draft : SchemaDraft} {schema : Schema} (built : draft.build = .ok schema) (ident : String) :
    (schema.typeNamed? ident).map (·.id) = draft.typeId? ident := by
  rw [typeId?_names, ← build_names built, List.findIdx?_map]
  cases found : schema.typeNamed? ident with
  | none =>
      have absent : schema.types.findIdx? (fun descriptor => descriptor.ident == ident) = none :=
        List.findIdx?_eq_none_iff.mpr fun descriptor present => by
          simpa using List.find?_eq_none.mp found descriptor present
      exact congrArg (Option.map TypeId.mk) absent.symm
  | some descriptor =>
      obtain ⟨isNamed, index, below, rfl, noneBefore⟩ := List.find?_eq_some_iff_getElem.mp found
      have place : schema.types.findIdx? (fun descriptor => descriptor.ident == ident) = some index :=
        List.findIdx?_eq_some_iff_getElem.mpr ⟨below, isNamed, fun before earlier => by
          simpa using noneBefore before earlier⟩
      rw [Option.map_some, (build_place built ⟨index⟩ (List.getElem?_eq_getElem below)).1]
      exact congrArg (Option.map TypeId.mk) place.symm

theorem ofSteps_holdsDeclared {steps : List DraftStep} {schema : Schema}
    (built : (ofSteps steps).build = .ok schema) : schema.HoldsDeclared steps := by
  have sameNames : declaredNames steps = schema.types.map (·.ident) := by
    rw [build_names built, ofSteps_names]
  have declares (ident : String) (id : TypeId) :
      StepsDeclare steps ident id ↔ ∃ descriptor, schema.get? id = some descriptor ∧ descriptor.ident = ident := by
    rw [declares_iff, sameNames, List.getElem?_map, Option.map_eq_some_iff]
    rfl
  refine ⟨?_, ?_, ?_, ?_⟩
  · intro ident present
    obtain ⟨index, below, found⟩ := List.mem_iff_getElem.mp present
    exact ⟨⟨index⟩, (declares_iff steps ident ⟨index⟩).mpr (List.getElem?_eq_some_iff.mpr ⟨below, found⟩)⟩
  · intro id
    constructor
    · rintro ⟨descriptor, found⟩
      exact ⟨descriptor.ident, (declares _ id).mpr ⟨descriptor, found, rfl⟩⟩
    · rintro ⟨ident, declared⟩
      obtain ⟨descriptor, found, _⟩ := (declares ident id).mp declared
      exact ⟨descriptor, found⟩
  · intro ident id
    constructor
    · intro declared
      obtain ⟨descriptor, found, rfl⟩ := (declares ident id).mp declared
      have distinct : (schema.types.map (·.ident)).Nodup := sameNames ▸ declaredNames_nodup steps
      exact ⟨descriptor, find?_named distinct (List.mem_of_getElem? found), (build_place built _ found).1,
        found, rfl⟩
    · rintro ⟨descriptor, _, _, found, same⟩
      exact (declares ident id).mpr ⟨descriptor, found, same⟩
  · intro ident id other otherId declared otherDeclared
    rw [declares_iff] at declared otherDeclared
    constructor
    · rintro rfl
      have below := (List.getElem?_eq_some_iff.mp declared).1
      exact congrArg TypeId.mk ((List.getElem?_inj below (declaredNames_nodup steps)).mp
        (declared.trans otherDeclared.symm))
    · rintro rfl
      exact Option.some.inj (declared.symm.trans otherDeclared)

/-- Steps make a schema if and only if every definition finds its place and what they define is well-formed
as a whole. The schema then holds the types that the steps declare, each under its name and its id. -/
theorem ofSteps_build (steps : List DraftStep) :
    ((∃ schema, (ofSteps steps).build = .ok schema) ↔
      IsPlaced steps ∧ WellFormed (StepsDefine steps) (declaredNames steps).length) ∧
    ∀ schema, (ofSteps steps).build = .ok schema → schema.HoldsDeclared steps := by
  refine ⟨?_, fun schema => ofSteps_holdsDeclared⟩
  obtain ⟨placed, sameDefined⟩ := ofSteps_placed steps
  rw [build_succeeds, placed]
  refine and_congr_right fun isPlaced => ?_
  have same : (ofSteps steps).Defines = StepsDefine steps := by
    funext id definition
    exact propext (sameDefined isPlaced id definition)
  rw [same, ← ofSteps_names, names, List.length_map]

/-- An order refers to its customer before the customer is defined. -/
def customerSteps : List DraftStep :=
  [.declare "Customer",
    .add "Order" (.struct ⟨none, [.accessible "customer" (.named ⟨0⟩) .field], [.literal]⟩),
    .define ⟨0⟩ (.struct ⟨none, [.accessible "name" (.scalar .string) .field], []⟩)]

def customerSchema : Schema where
  types :=
    [⟨⟨0⟩, "Customer", .struct ⟨none, layOut ⟨0⟩ [.accessible "name" (.scalar .string) .field] [], []⟩⟩,
      ⟨⟨1⟩, "Order", .struct ⟨none, layOut ⟨1⟩ [.accessible "customer" (.named ⟨0⟩) .field] [], [.literal]⟩⟩]

theorem customerSteps_build :
    (ofSteps customerSteps).build = .ok customerSchema ∧ IsPlaced customerSteps ∧
      WellFormed (StepsDefine customerSteps) (declaredNames customerSteps).length ∧
        customerSchema.HoldsDeclared customerSteps := by
  have built : (ofSteps customerSteps).build = .ok customerSchema := by decide +kernel
  obtain ⟨placed, wellFormed⟩ := (ofSteps_build customerSteps).1.mp ⟨customerSchema, built⟩
  exact ⟨built, placed, wellFormed, (ofSteps_build customerSteps).2 customerSchema built⟩

end SchemaDraft

end ObjectMapping
