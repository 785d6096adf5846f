/-
This file follows the bases of a struct. The walk over them ends on every draft, and it finds a whole chain
if and only if all that it reaches are structs of which none is reached from itself.
-/

import Mathlib.Data.List.Nodup
import Mathlib.Logic.Relation
import ObjectMapping.Proofs.Fallible
import ObjectMapping.Schema.Build

namespace ObjectMapping

open Relation

section

-- What is defined at which place.
variable (defines : TypeId → Definition → Prop)

def HasBase (id base : TypeId) : Prop :=
  ∃ definition, defines id (.struct definition) ∧ definition.base = some base

/-- The definitions of a base and of its own bases, the nearest first, down to a struct without a base. -/
inductive BaseDefinitions : Option TypeId → List StructDefinition → Prop
  | nil : BaseDefinitions none []
  | cons (base : TypeId) (definition : StructDefinition) (further : List StructDefinition)
      (defined : defines base (.struct definition)) (chain : BaseDefinitions definition.base further) :
      BaseDefinitions (some base) (definition :: further)

/-- The base chain of a struct runs through structs only and comes back to none of them. -/
def RunsThroughStructs (id : TypeId) : Prop :=
  ∀ other, ReflTransGen (HasBase defines) id other →
    (∃ definition, defines other (.struct definition)) ∧ ¬ TransGen (HasBase defines) other other

end

namespace BaseDefinitions

variable {defines : TypeId → Definition → Prop}
  (functional : ∀ id first second, defines id first → defines id second → first = second)

include functional

theorem unique {start : Option TypeId} {first second : List StructDefinition}
    (left : BaseDefinitions defines start first) (right : BaseDefinitions defines start second) :
    first = second := by
  induction left generalizing second with
  | nil =>
      cases right
      rfl
  | cons base definition further defined _ inductionHypothesis =>
      cases right with
      | cons _ other rest otherDefined otherChain =>
          cases functional _ _ _ defined otherDefined
          rw [inductionHypothesis otherChain]

/-- The base of a struct with a chain has a chain, which is shorter. -/
theorem step {id base : TypeId} {bases : List StructDefinition}
    (chain : BaseDefinitions defines (some id) bases) (has : HasBase defines id base) :
    ∃ rest, BaseDefinitions defines (some base) rest ∧ rest.length < bases.length := by
  obtain ⟨definition, defined, isBase⟩ := has
  cases chain with
  | cons _ found further foundAt chain =>
      cases functional _ _ _ defined foundAt
      rw [isBase] at chain
      exact ⟨further, chain, by simp⟩

theorem reached {id other : TypeId} {bases : List StructDefinition}
    (chain : BaseDefinitions defines (some id) bases) (steps : TransGen (HasBase defines) id other) :
    ∃ rest, BaseDefinitions defines (some other) rest ∧ rest.length < bases.length := by
  induction steps with
  | single has => exact chain.step functional has
  | tail _ has inductionHypothesis =>
      obtain ⟨rest, restChain, shorter⟩ := inductionHypothesis
      obtain ⟨further, furtherChain, evenShorter⟩ := restChain.step functional has
      exact ⟨further, furtherChain, Nat.lt_trans evenShorter shorter⟩

/-- A struct with a chain is not reached from itself: the chain would be shorter than itself. -/
theorem acyclic {id : TypeId} {bases : List StructDefinition}
    (chain : BaseDefinitions defines (some id) bases) : ¬ TransGen (HasBase defines) id id := by
  intro steps
  obtain ⟨rest, restChain, shorter⟩ := chain.reached functional steps
  rw [restChain.unique functional chain] at shorter
  exact Nat.lt_irrefl _ shorter

theorem runsThroughStructs {id : TypeId} {bases : List StructDefinition}
    (chain : BaseDefinitions defines (some id) bases) : RunsThroughStructs defines id := by
  intro other steps
  obtain ⟨rest, restChain⟩ : ∃ rest, BaseDefinitions defines (some other) rest := by
    obtain rfl | steps := reflTransGen_iff_eq_or_transGen.mp steps
    · exact ⟨bases, chain⟩
    · obtain ⟨rest, restChain, _⟩ := chain.reached functional steps
      exact ⟨rest, restChain⟩
  refine ⟨?_, restChain.acyclic functional⟩
  cases restChain with
  | cons _ definition _ defined _ => exact ⟨definition, defined⟩

end BaseDefinitions

namespace SchemaDraft

variable (draft : SchemaDraft)

def Defines (id : TypeId) (definition : Definition) : Prop :=
  ∃ ident, draft.slots[id.index]? = some ⟨ident, some definition⟩

theorem defines_functional (id : TypeId) (first second : Definition) (left : draft.Defines id first)
    (right : draft.Defines id second) : first = second := by
  obtain ⟨ident, found⟩ := left
  obtain ⟨other, otherFound⟩ := right
  rw [found] at otherFound
  cases otherFound
  rfl

variable {draft}

theorem defines_of_slot {id : TypeId} {slot : Slot} {definition : Definition}
    (found : draft.slots[id.index]? = some slot) (defined : slot.definition = some definition) :
    draft.Defines id definition := by
  obtain ⟨ident, _⟩ := slot
  cases defined
  exact ⟨ident, found⟩

theorem Defines.inRange {id : TypeId} {definition : Definition} (defined : draft.Defines id definition) :
    id ∈ draft.ids := by
  obtain ⟨ident, found⟩ := defined
  have below := (List.getElem?_eq_some_iff.mp found).1
  exact List.mem_map.mpr ⟨id.index, List.mem_range.mpr below, rfl⟩

variable (draft) in
theorem ids_nodup : draft.ids.Nodup :=
  List.nodup_range.map fun _ _ same => congrArg TypeId.index same

theorem baseChain_ok {owner : String} {remaining : List TypeId} {start : Option TypeId}
    {bases : List StructDefinition} (found : draft.baseChain owner remaining start = .ok bases) :
    BaseDefinitions draft.Defines start bases := by
  fun_induction baseChain draft owner remaining start generalizing bases with
  | case1 =>
      cases found
      exact .nil
  | case3 remaining base slot atPlace _ definition isStruct _ inductionHypothesis =>
      obtain ⟨further, furtherFound, same⟩ := (bind_ok _ _ _).mp found
      cases same
      exact .cons base definition further (defines_of_slot atPlace isStruct) (inductionHypothesis furtherFound)
  | case2 | case4 | case5 => cases found

/-- The walk succeeds where it meets structs only, each of them for the first time. -/
theorem baseChain_succeeds (owner : String) {remaining : List TypeId} {start : Option TypeId}
    (runs : ∀ base ∈ start, RunsThroughStructs draft.Defines base)
    (remains : ∀ base ∈ start, ∀ other, ReflTransGen (HasBase draft.Defines) base other → other ∈ remaining) :
    ∃ bases, draft.baseChain owner remaining start = .ok bases := by
  fun_induction baseChain draft owner remaining start with
  | case1 => exact ⟨[], rfl⟩
  | case2 remaining base missing =>
      obtain ⟨_, _, found⟩ := (runs base rfl base .refl).1
      rw [missing] at found
      cases found
  | case3 remaining base slot atPlace _ definition isStruct _ inductionHypothesis =>
      have hasBase {next : TypeId} (isNext : next ∈ definition.base) : HasBase draft.Defines base next :=
        ⟨definition, defines_of_slot atPlace isStruct, isNext⟩
      obtain ⟨further, found⟩ := inductionHypothesis
        (fun next isNext other steps => runs base rfl other (.head (hasBase isNext) steps))
        (by
          intro next isNext other steps
          have isNew : other ≠ base := by
            rintro rfl
            exact (runs _ rfl _ .refl).2 (.head' (hasBase isNext) steps)
          exact (List.mem_erase_of_ne isNew).mpr (remains base rfl other (.head (hasBase isNext) steps)))
      exact ⟨definition :: further, by rw [found]; rfl⟩
  | case4 remaining base slot atPlace _ noStruct =>
      obtain ⟨definition, _, found⟩ := (runs base rfl base .refl).1
      rw [atPlace] at found
      cases found
      exact absurd rfl (noStruct definition)
  | case5 remaining base slot _ absent => exact absurd (remains base rfl base .refl) absent

/-- A struct is flattened if and only if its base chain runs through structs only, each but once. -/
theorem flatten_succeeds {id : TypeId} {definition : StructDefinition}
    (defined : draft.Defines id (.struct definition)) (ident : String) :
    (∃ type, draft.flatten id ident definition = .ok type) ↔ RunsThroughStructs draft.Defines id := by
  constructor
  · rintro ⟨type, flattened⟩
    obtain ⟨bases, found, _⟩ := (bind_ok _ _ _).mp flattened
    exact (BaseDefinitions.cons id definition bases defined (baseChain_ok found)).runsThroughStructs
      draft.defines_functional
  · intro runs
    have hasBase {base : TypeId} (isBase : base ∈ definition.base) : HasBase draft.Defines id base :=
      ⟨definition, defined, isBase⟩
    have remains : ∀ base ∈ definition.base, ∀ other, ReflTransGen (HasBase draft.Defines) base other →
        other ∈ draft.ids.erase id := by
      intro base isBase other steps
      obtain ⟨⟨_, otherDefined⟩, _⟩ := runs other (.head (hasBase isBase) steps)
      have isNew : other ≠ id := by
        rintro rfl
        exact (runs _ .refl).2 (.head' (hasBase isBase) steps)
      exact (List.mem_erase_of_ne isNew).mpr otherDefined.inRange
    obtain ⟨bases, found⟩ := baseChain_succeeds ident
      (fun base isBase other steps => runs other (.head (hasBase isBase) steps)) remains
    exact ⟨_, (bind_ok _ _ _).mpr ⟨bases, found, rfl⟩⟩

/-- The walk over the bases of a struct, a base at a time, without a bound: it knows those that it has
visited, and stops where there is no base, at a base that it has visited, and at one that is no struct. -/
inductive Walk (draft : SchemaDraft) (owner : String) :
    List TypeId → Option TypeId → Nat → Except Fault (List StructDefinition) → Prop
  | ended (visited : List TypeId) : Walk draft owner visited none 0 (.ok [])
  | looped (visited : List TypeId) (base : TypeId) (slot : Slot) (isVisited : base ∈ visited)
      (found : draft.slots[base.index]? = some slot) :
      Walk draft owner visited (some base) 0
        (.error (.invalidSchema s!"base chain of `{owner}` loops through `{slot.ident}`"))
  | missing (visited : List TypeId) (base : TypeId) (isNew : base ∉ visited)
      (absent : draft.slots[base.index]? = none) :
      Walk draft owner visited (some base) 0
        (.error (.invalidSchema s!"base of `{owner}` refers to an unknown type"))
  | noStruct (visited : List TypeId) (base : TypeId) (slot : Slot) (isNew : base ∉ visited)
      (found : draft.slots[base.index]? = some slot)
      (other : ∀ definition, slot.definition ≠ some (.struct definition)) :
      Walk draft owner visited (some base) 0
        (.error (.invalidSchema s!"base `{slot.ident}` of `{owner}` is not a struct"))
  | further (visited : List TypeId) (base : TypeId) (definition : StructDefinition) (steps : Nat)
      (answer : Except Fault (List StructDefinition)) (isNew : base ∉ visited)
      (defined : draft.Defines base (.struct definition))
      (rest : Walk draft owner (base :: visited) definition.base steps answer) :
      Walk draft owner visited (some base) (steps + 1) (answer.map (definition :: ·))

/-- The walk ends, on cyclic chains as well, after as many steps as places remain at most. -/
theorem baseChain_walk (owner : String) {visited remaining : List TypeId} (start : Option TypeId)
    (within : ∀ id ∈ visited, id ∈ draft.ids)
    (split : ∀ id, id ∈ remaining ↔ id ∈ draft.ids ∧ id ∉ visited) (distinct : remaining.Nodup) :
    ∃ steps ≤ remaining.length,
      draft.Walk owner visited start steps (draft.baseChain owner remaining start) := by
  have inRange {id : TypeId} {slot : Slot} (found : draft.slots[id.index]? = some slot) : id ∈ draft.ids :=
    List.mem_map.mpr ⟨id.index, List.mem_range.mpr (List.getElem?_eq_some_iff.mp found).1, rfl⟩
  fun_induction baseChain draft owner remaining start generalizing visited with
  | case1 => exact ⟨0, Nat.zero_le _, .ended visited⟩
  | case2 remaining base absent =>
      refine ⟨0, Nat.zero_le _, .missing visited base (fun isVisited => ?_) absent⟩
      obtain ⟨index, below, rfl⟩ := List.mem_map.mp (within base isVisited)
      rw [List.getElem?_eq_getElem (List.mem_range.mp below)] at absent
      cases absent
  | case3 remaining base slot atPlace present definition isStruct fewer inductionHypothesis =>
      have isNew := ((split base).mp present).2
      obtain ⟨steps, bounded, walk⟩ := inductionHypothesis
        (List.forall_mem_cons.mpr ⟨inRange atPlace, within⟩)
        (by
          intro id
          rw [distinct.mem_erase_iff, split, List.mem_cons]
          tauto)
        (distinct.erase base)
      refine ⟨steps + 1, by omega, ?_⟩
      have whole := Walk.further visited base definition steps _ isNew (defines_of_slot atPlace isStruct) walk
      generalize draft.baseChain owner (remaining.erase base) definition.base = answer at whole ⊢
      cases answer <;> exact whole
  | case4 remaining base slot atPlace present other =>
      exact ⟨0, Nat.zero_le _, .noStruct visited base slot ((split base).mp present).2 atPlace
        fun definition same => other definition same⟩
  | case5 remaining base slot atPlace absent =>
      have isVisited : base ∈ visited := by
        by_contra isNew
        exact absent ((split base).mpr ⟨inRange atPlace, isNew⟩)
      exact ⟨0, Nat.zero_le _, .looped visited base slot isVisited atPlace⟩

end SchemaDraft

end ObjectMapping
