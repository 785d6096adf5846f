/-
This file compares drafts that collect the same definitions in different orders. Where all names are declared
first, the order only decides which id a name gets: one draft makes a schema if and only if the other does, and
the schemas hold the same types under other ids.
-/

import ObjectMapping.Proofs.Renumbering.Basic
import ObjectMapping.Proofs.Schema.Description

namespace ObjectMapping

open Relation

section

variable (renumber other : Equiv.Perm TypeId)

def StructDefinition.renumbered (definition : StructDefinition) : StructDefinition where
  base := definition.base.map renumber
  members := definition.members.map (·.renumbered renumber)
  constructors := definition.constructors.map (·.renumbered renumber)

def Definition.renumbered : Definition → Definition
  | .struct definition => .struct (definition.renumbered renumber)
  | .enum variants => .enum variants

@[simp]
theorem StructDefinition.renumbered_refl (definition : StructDefinition) :
    definition.renumbered (.refl _) = definition := by
  simp [renumbered]

@[simp]
theorem StructDefinition.renumbered_trans (definition : StructDefinition) :
    (definition.renumbered renumber).renumbered other = definition.renumbered (renumber.trans other) := by
  simp [renumbered, Function.comp_def]

@[simp]
theorem Definition.renumbered_refl (definition : Definition) : definition.renumbered (.refl _) = definition := by
  cases definition <;> simp [renumbered]

@[simp]
theorem Definition.renumbered_trans (definition : Definition) :
    (definition.renumbered renumber).renumbered other = definition.renumbered (renumber.trans other) := by
  cases definition <;> simp [renumbered]

@[simp]
theorem TypeRef.namedTypes_renumbered (type : TypeRef) :
    (type.renumbered renumber).namedTypes = type.namedTypes.map renumber := by
  induction type with
  | scalar | named | foreign => rfl
  | nullable inner inductionHypothesis => exact inductionHypothesis
  | collection kind element inductionHypothesis => exact inductionHypothesis

/-- Members are laid out in the same order. -/
theorem StructDefinition.layOut_renumbered (definition : StructDefinition) (id : TypeId)
    (bases : List StructDefinition) :
    SchemaDraft.layOut (renumber id) (definition.renumbered renumber).members
        (bases.map (·.renumbered renumber)) =
      (SchemaDraft.layOut id definition.members bases).map (·.renumbered renumber) := by
  have entries : ((bases.map (·.renumbered renumber)).reverse.flatMap fun each =>
        each.members.map fun member => (member, true)) ++
          (definition.renumbered renumber).members.map (fun member => (member, false)) =
      ((bases.reverse.flatMap fun each => each.members.map fun member => (member, true)) ++
        definition.members.map fun member => (member, false)).map
          (fun entry => (entry.1.renumbered renumber, entry.2)) := by
    rw [List.map_append, List.map_flatMap, ← List.map_reverse, List.flatMap_map]
    simp [StructDefinition.renumbered, Function.comp_def]
  unfold SchemaDraft.layOut
  dsimp only
  rw [entries, List.zipIdx_map, List.map_map, List.map_map]
  rfl

theorem StructDefinition.flattened_renumbered (definition : StructDefinition) (bases : List StructDefinition) :
    (definition.renumbered renumber).flattened (bases.map (·.renumbered renumber)) =
      (definition.flattened bases).map (·.renumbered renumber) := by
  have sameMembers (each : StructDefinition) :
      (each.renumbered renumber).members = each.members.map (·.renumbered renumber) := rfl
  simp only [flattened, ← List.map_cons, ← List.map_reverse, List.flatMap_map, List.map_flatMap, sameMembers]

end

/-- The definitions that steps give, each with its id. -/
def givenDefinitions (steps : List DraftStep) : List (TypeId × Definition) :=
  steps.filterMap (·.definition? (declaredNames steps))

/-- All names are declared before the first definition. -/
def DeclaresFirst (steps : List DraftStep) : Prop :=
  ∃ (names : List String) (definitions : List DraftStep), steps = names.map .declare ++ definitions ∧
    ∀ step ∈ definitions, ∀ ident ∈ step.ident?, ident ∈ names

/-- The same names are declared, and then the same definitions are given, in any other order; `renumber` leads
from the id that a name has in the one draft to its id in the other, and changes no other id. -/
structure Reorders (renumber : Equiv.Perm TypeId) (steps others : List DraftStep) : Prop where
  declaresFirst : DeclaresFirst steps
  alsoDeclaresFirst : DeclaresFirst others
  ids : ∀ ident id, StepsDeclare others ident (renumber id) ↔ StepsDeclare steps ident id
  unknown : ∀ id, (∀ ident, ¬ StepsDeclare steps ident id) → renumber id = id
  definitions : (givenDefinitions others).Perm
    ((givenDefinitions steps).map (Prod.map renumber (·.renumbered renumber)))

namespace DraftStep

theorem definition?_isSome (step : DraftStep) (names others : List String) :
    (step.definition? names).isSome = (step.definition? others).isSome := by
  cases step <;> rfl

end DraftStep

/-- Steps that declare known names leave the names as they are. -/
theorem declaredNames_declared (names : List String) {definitions : List DraftStep}
    (known : ∀ step ∈ definitions, ∀ ident ∈ step.ident?, ident ∈ names) :
    declaredNames (names.map .declare ++ definitions) = names.eraseDups := by
  have declares : (names.map DraftStep.declare).filterMap DraftStep.ident? = names := by
    rw [List.filterMap_map]
    exact List.filterMap_some
  have nothingNew : (definitions.filterMap DraftStep.ident?).removeAll names = [] := by
    rw [List.removeAll, List.filter_eq_nil_iff]
    intro ident present
    obtain ⟨step, isStep, isIdent⟩ := List.mem_filterMap.mp present
    simpa using known step isStep ident isIdent
  rw [declaredNames, List.filterMap_append, declares, List.eraseDups_append, nothingNew]
  exact List.append_nil _

/-- Values are good and have different keys if and only if each of them is good and has a key that none before
it has. -/
theorem forall_split_filterMap {α β γ : Type} (good : β → Prop) (value? : α → Option (β × γ)) (items : List α) :
    (∀ before item after, items = before ++ item :: after → ∀ key value, value? item = some (key, value) →
      good key ∧ ∀ other, (key, other) ∉ before.filterMap value?) ↔
      (∀ found ∈ items.filterMap value?, good found.1) ∧ ((items.filterMap value?).map (·.1)).Nodup := by
  induction items using List.reverseRecOn with
  | nil => simp
  | append_singleton items item inductionHypothesis =>
      rw [forall_split_concat (fun before item => ∀ key value, value? item = some (key, value) →
        good key ∧ ∀ other, (key, other) ∉ before.filterMap value?), inductionHypothesis, List.filterMap_append]
      cases found : value? item with
      | none => simp [found]
      | some pair =>
          obtain ⟨key, value⟩ := pair
          have isNew : (∀ other, (key, other) ∉ items.filterMap value?) ↔
              key ∉ (items.filterMap value?).map (·.1) := by
            simp only [List.mem_map, not_exists, not_and]
            exact ⟨fun absent pair present same => absent pair.2 (same ▸ present),
              fun absent other present => absent _ present rfl⟩
          have atEnd : [item].filterMap value? = [(key, value)] := by simp [found]
          have distinct : ((items.filterMap value?).map (·.1) ++ [key]).Nodup ↔
              key ∉ (items.filterMap value?).map (·.1) ∧ ((items.filterMap value?).map (·.1)).Nodup := by
            rw [← List.concat_eq_append, List.nodup_concat]
          rw [atEnd, List.map_append, List.map_singleton, distinct, ← isNew]
          simp only [Option.some.injEq, Prod.mk.injEq, List.forall_mem_append, List.forall_mem_singleton]
          constructor
          · rintro ⟨⟨allGood, distinct⟩, ofLast⟩
            obtain ⟨isGood, isNew⟩ := ofLast key value ⟨rfl, rfl⟩
            exact ⟨⟨allGood, isGood⟩, isNew, distinct⟩
          · rintro ⟨⟨allGood, isGood⟩, isNew, distinct⟩
            refine ⟨⟨allGood, distinct⟩, ?_⟩
            rintro _ _ ⟨rfl, rfl⟩
            exact ⟨isGood, isNew⟩

namespace DeclaresFirst

variable {steps : List DraftStep} (declaresFirst : DeclaresFirst steps)

include declaresFirst

/-- When the first definition is given, all names are known. -/
theorem names_split {before after : List DraftStep} {step : DraftStep} (split : steps = before ++ step :: after)
    {names : List String} (defines : (step.definition? names).isSome) :
    declaredNames (before ++ [step]) = declaredNames steps := by
  obtain ⟨declared, definitions, rfl, known⟩ := declaresFirst
  have notDeclared : step ∉ declared.map .declare := by
    intro present
    obtain ⟨ident, _, rfl⟩ := List.mem_map.mp present
    cases defines
  obtain ⟨earlier, rfl, rfl⟩ : ∃ earlier, before = declared.map .declare ++ earlier ∧
      definitions = earlier ++ step :: after := by
    obtain ⟨earlier, isBefore, isDefinitions⟩ | ⟨rest, isDeclared, isRest⟩ := List.append_eq_append_iff.mp split
    · exact ⟨earlier, isBefore, isDefinitions⟩
    · cases rest with
      | nil => exact ⟨[], by simpa using isDeclared.symm, by simpa using isRest.symm⟩
      | cons first rest =>
          obtain ⟨rfl, _⟩ := List.cons.inj isRest
          exact absurd (isDeclared ▸ List.mem_append_right _ List.mem_cons_self) notDeclared
  rw [declaredNames_declared declared known, List.append_assoc]
  refine declaredNames_declared declared fun other present => known other ?_
  rw [List.mem_append, List.mem_singleton] at present
  obtain isEarlier | rfl := present
  · exact List.mem_append_left _ isEarlier
  · simp

/-- What some of the steps define can be told with the names that all steps declare. -/
theorem defines_prefix {before further : List DraftStep} (split : steps = before ++ further) (id : TypeId)
    (definition : Definition) :
    StepsDefine before id definition ↔
      (id, definition) ∈ before.filterMap (·.definition? (declaredNames steps)) := by
  rw [List.mem_filterMap]
  constructor
  · rintro ⟨earlier, step, after, rfl, given⟩
    rw [declaresFirst.names_split (by rw [split, List.append_assoc]; rfl) (by rw [given]; rfl)] at given
    exact ⟨step, by simp, given⟩
  · rintro ⟨step, isStep, given⟩
    obtain ⟨earlier, after, rfl⟩ := List.mem_iff_append.mp isStep
    refine ⟨earlier, step, after, rfl, ?_⟩
    have defines : (step.definition? (declaredNames steps)).isSome := by rw [given]; rfl
    rw [declaresFirst.names_split (by rw [split, List.append_assoc]; rfl) defines]
    exact given

theorem defines_iff (id : TypeId) (definition : Definition) :
    StepsDefine steps id definition ↔ (id, definition) ∈ givenDefinitions steps :=
  declaresFirst.defines_prefix (List.append_nil steps).symm id definition

/-- Definitions find their places if and only if each is given for a declared name, and no two for the same. -/
theorem isPlaced_iff :
    IsPlaced steps ↔ (∀ given ∈ givenDefinitions steps, given.1.index < (declaredNames steps).length) ∧
      ((givenDefinitions steps).map (·.1)).Nodup := by
  refine Iff.trans ?_ (forall_split_filterMap (fun id : TypeId => id.index < (declaredNames steps).length)
    (·.definition? (declaredNames steps)) steps)
  refine forall₄_congr fun before step after split => ?_
  cases given : step.definition? (declaredNames steps) with
  | none =>
      have givesNone : step.definition? (declaredNames (before ++ [step])) = none := by
        rw [← Option.isNone_iff_eq_none, ← Option.not_isSome, step.definition?_isSome _ (declaredNames steps), given]
        rfl
      simp [givesNone]
  | some entry =>
      rw [declaresFirst.names_split split (by rw [given]; rfl), given]
      simp only [declaresFirst.defines_prefix split]

end DeclaresFirst

section Renumbered

-- What is defined in the one draft is defined in the other, under the new ids.
variable {renumber : Equiv.Perm TypeId} {defines otherDefines : TypeId → Definition → Prop}
  (forth : ∀ id definition, defines id definition → otherDefines (renumber id) (definition.renumbered renumber))

include forth

theorem HasBase.renumbered {id base : TypeId} (has : HasBase defines id base) :
    HasBase otherDefines (renumber id) (renumber base) := by
  obtain ⟨definition, defined, isBase⟩ := has
  exact ⟨definition.renumbered renumber, forth _ _ defined, by simp [StructDefinition.renumbered, isBase]⟩

theorem BaseDefinitions.renumbered {start : Option TypeId} {bases : List StructDefinition}
    (chain : BaseDefinitions defines start bases) :
    BaseDefinitions otherDefines (start.map renumber) (bases.map (·.renumbered renumber)) := by
  induction chain with
  | nil => exact .nil
  | cons base definition further defined _ inductionHypothesis =>
      exact .cons (renumber base) (definition.renumbered renumber) _ (forth _ _ defined) inductionHypothesis

theorem Describes.renumbered {id : TypeId} {ident : String} {descriptor : TypeDescriptor}
    (describes : Describes defines id ident descriptor) :
    Describes otherDefines (renumber id) ident (descriptor.renumbered renumber) := by
  cases describes with
  | enum variants defined => exact .enum variants (forth _ _ defined)
  | struct definition bases defined chain =>
      have sameLayout := definition.layOut_renumbered renumber id bases
      have whole : Describes otherDefines (renumber id) ident _ :=
        .struct (definition.renumbered renumber) _ (forth _ _ defined) (chain.renumbered forth)
      rw [sameLayout] at whole
      exact whole

/-- Definitions that make a schema make one under other ids as well. -/
theorem WellFormed.renumbered {count otherCount : Nat}
    (back : ∀ id definition, otherDefines id definition →
      defines (renumber.symm id) (definition.renumbered renumber.symm))
    (inRange : ∀ id, id.index < count → (renumber id).index < otherCount)
    (alsoInRange : ∀ id, id.index < otherCount → (renumber.symm id).index < count)
    (wellFormed : WellFormed defines count) : WellFormed otherDefines otherCount := by
  have known : ∀ type : TypeRef, (∀ id ∈ (type.renumbered renumber.symm).namedTypes, id.index < count) →
      ∀ id ∈ type.namedTypes, id.index < otherCount := by
    intro type allKnown id present
    rw [TypeRef.namedTypes_renumbered, List.forall_mem_map] at allKnown
    simpa using inRange _ (allKnown id present)
  refine ⟨?_, ?_, ?_, ?_, ?_, ?_⟩
  · intro index below
    obtain ⟨definition, defined⟩ := wellFormed.complete _ (alsoInRange ⟨index⟩ below)
    have alsoDefined := forth (renumber.symm ⟨index⟩) definition defined
    rw [Equiv.apply_symm_apply] at alsoDefined
    exact ⟨_, alsoDefined⟩
  · intro id variants defined
    exact wellFormed.variants _ variants (back _ _ defined)
  · intro id definition defined other steps
    have hasBase (first second : TypeId) (has : HasBase otherDefines first second) :
        HasBase defines (renumber.symm first) (renumber.symm second) := has.renumbered back
    obtain ⟨⟨found, isStruct⟩, noLoop⟩ :=
      wellFormed.bases _ _ (back _ _ defined) (renumber.symm other) (steps.lift _ hasBase)
    refine ⟨⟨found.renumbered renumber, ?_⟩, fun loop => noLoop (loop.lift _ hasBase)⟩
    have alsoDefined := forth _ _ isStruct
    rw [Equiv.apply_symm_apply] at alsoDefined
    exact alsoDefined
  · intro id definition bases defined chain
    have distinct := wellFormed.names _ _ _ (back _ _ defined) (chain.renumbered back)
    rw [StructDefinition.flattened_renumbered, List.map_map] at distinct
    exact distinct
  · intro id definition bases defined chain member present
    have allKnown := wellFormed.members _ _ _ (back _ _ defined) (chain.renumbered back)
    rw [StructDefinition.flattened_renumbered, List.forall_mem_map] at allKnown
    exact known _ (allKnown member present)
  · intro id definition defined constructor isChoice parameter isParameter
    have allKnown := wellFormed.parameters _ _ (back _ _ defined) (constructor.renumbered renumber.symm)
      (List.mem_map_of_mem isChoice) (parameter.renumbered renumber.symm)
      (by
        rw [Constructor.parameters_renumbered]
        exact List.mem_map_of_mem isParameter)
    exact known _ allKnown

end Renumbered

/-- The other schema holds the same types under their new ids; ids of no type are left alone. -/
structure Schema.IsRenumbered (renumber : Equiv.Perm TypeId) (schema other : Schema) : Prop where
  types : ∀ id, other.get? (renumber id) = (schema.get? id).map (·.renumbered renumber)
  unknown : ∀ id, schema.get? id = none → renumber id = id

namespace Reorders

variable {renumber : Equiv.Perm TypeId} {steps others : List DraftStep}
  (reorders : Reorders renumber steps others)

include reorders

theorem symm : Reorders renumber.symm others steps where
  declaresFirst := reorders.alsoDeclaresFirst
  alsoDeclaresFirst := reorders.declaresFirst
  ids ident id := by
    have same := reorders.ids ident (renumber.symm id)
    rw [Equiv.apply_symm_apply] at same
    exact same.symm
  unknown id undeclared := by
    have same := reorders.unknown (renumber.symm id) fun ident declared => by
      have alsoDeclared := (reorders.ids ident _).mpr declared
      rw [Equiv.apply_symm_apply] at alsoDeclared
      exact undeclared ident alsoDeclared
    rw [Equiv.apply_symm_apply] at same
    exact same.symm
  definitions := by
    have back := reorders.definitions.symm.map (Prod.map renumber.symm (·.renumbered renumber.symm))
    simpa [Function.comp_def, Prod.map] using back

/-- A name is declared for an id in the one draft if and only if it is for the new id in the other. -/
theorem named (id : TypeId) :
    (declaredNames others)[(renumber id).index]? = (declaredNames steps)[id.index]? := by
  apply Option.ext
  intro ident
  rw [← declares_iff, ← declares_iff, reorders.ids]

theorem inRange (id : TypeId) (below : id.index < (declaredNames steps).length) :
    (renumber id).index < (declaredNames others).length := by
  have isNamed := reorders.named id
  rw [List.getElem?_eq_getElem below] at isNamed
  exact (List.getElem?_eq_some_iff.mp isNamed).1

theorem defines (id : TypeId) (definition : Definition) (defined : StepsDefine steps id definition) :
    StepsDefine others (renumber id) (definition.renumbered renumber) := by
  rw [reorders.declaresFirst.defines_iff] at defined
  rw [reorders.alsoDeclaresFirst.defines_iff, reorders.definitions.mem_iff]
  exact List.mem_map_of_mem defined

theorem isPlaced (placed : IsPlaced steps) : IsPlaced others := by
  rw [reorders.declaresFirst.isPlaced_iff] at placed
  obtain ⟨below, distinct⟩ := placed
  rw [reorders.alsoDeclaresFirst.isPlaced_iff]
  constructor
  · intro given present
    obtain ⟨entry, isGiven, rfl⟩ := List.mem_map.mp (reorders.definitions.mem_iff.mp present)
    exact reorders.inRange _ (below entry isGiven)
  · rw [(reorders.definitions.map (·.1)).nodup_iff, List.map_map]
    have ids := distinct.map renumber.injective
    rw [List.map_map] at ids
    exact ids

/-- If the one draft makes a schema, the other does. -/
theorem builds (builds : ∃ schema, (SchemaDraft.ofSteps steps).build = .ok schema) :
    ∃ other, (SchemaDraft.ofSteps others).build = .ok other := by
  obtain ⟨placed, wellFormed⟩ := (SchemaDraft.ofSteps_build steps).1.mp builds
  exact (SchemaDraft.ofSteps_build others).1.mpr ⟨reorders.isPlaced placed,
    wellFormed.renumbered reorders.defines reorders.symm.defines reorders.inRange reorders.symm.inRange⟩

/-- The schemas of both drafts hold the same types, each in the place of its name. -/
theorem isRenumbered {schema other : Schema} (built : (SchemaDraft.ofSteps steps).build = .ok schema)
    (alsoBuilt : (SchemaDraft.ofSteps others).build = .ok other) : schema.IsRenumbered renumber other := by
  have placed := ((SchemaDraft.ofSteps_build steps).1.mp ⟨schema, built⟩).1
  have forth : ∀ id definition, (SchemaDraft.ofSteps steps).Defines id definition →
      (SchemaDraft.ofSteps others).Defines (renumber id) (definition.renumbered renumber) := by
    intro id definition defined
    rw [(ofSteps_placed steps).2 placed] at defined
    rw [(ofSteps_placed others).2 (reorders.isPlaced placed)]
    exact reorders.defines id definition defined
  constructor
  · intro id
    cases found : schema.get? id with
    | some descriptor =>
        obtain ⟨ident, isNamed, describes⟩ := (SchemaDraft.build_describes built id descriptor).mp found
        refine (SchemaDraft.build_describes alsoBuilt _ _).mpr ⟨ident, ?_, describes.renumbered forth⟩
        rw [ofSteps_names, reorders.named, ← ofSteps_names]
        exact isNamed
    | none =>
        rw [SchemaDraft.build_get?_none built, ofSteps_names] at found
        rw [Option.map_none, SchemaDraft.build_get?_none alsoBuilt, ofSteps_names, reorders.named, found]
  · intro id missing
    rw [SchemaDraft.build_get?_none built, ofSteps_names] at missing
    refine reorders.unknown id fun ident declared => ?_
    rw [declares_iff, missing] at declared
    cases declared

end Reorders

end ObjectMapping
