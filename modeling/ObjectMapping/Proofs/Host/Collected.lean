/-
This file follows the declared types into the schema of a host. Each struct of the schema comes from a struct
declaration of its name, and its base chain is the chain along which the structs dereference to each other.
-/

import ObjectMapping.Proofs.Host.Basic
import ObjectMapping.Proofs.Schema.Reordering

namespace ObjectMapping

open Relation Source

namespace Host

/-- The steps that collect declared types: all names first, then the definitions that were found for them. -/
def collectingSteps (declarations : List Declaration) (entries : List Entry) : List DraftStep :=
  (declarations.map (·.name)).map .declare ++ entries.map fun one => .define one.id one.definition

theorem collectingSteps_draft (declarations : List Declaration) (entries : List Entry) :
    SchemaDraft.ofSteps (collectingSteps declarations entries) =
      entries.foldl (fun draft one => draft.define one.id one.definition)
        (declarations.foldl (fun draft declaration => (draft.declare declaration.name).1) .empty) := by
  rw [collectingSteps, SchemaDraft.ofSteps, List.foldl_append, List.foldl_map, List.foldl_map, List.foldl_map]
  rfl

/-- Definitions declare no names. -/
theorem collectingSteps_known {declarations : List Declaration} {entries : List Entry} :
    ∀ step ∈ entries.map fun one => DraftStep.define one.id one.definition,
      ∀ ident ∈ step.ident?, ident ∈ declarations.map (·.name) := by
  rw [List.forall_mem_map]
  nofun

theorem collectingSteps_declaresFirst (declarations : List Declaration) (entries : List Entry) :
    DeclaresFirst (collectingSteps declarations entries) :=
  ⟨declarations.map (·.name), _, rfl, collectingSteps_known⟩

theorem collectingSteps_names (declarations : List Declaration) (entries : List Entry) :
    (SchemaDraft.ofSteps (collectingSteps declarations entries)).names =
      (declarations.map (·.name)).eraseDups := by
  rw [ofSteps_names]
  exact declaredNames_declared _ collectingSteps_known

theorem collectingSteps_typeId? {declarations : List Declaration} {entries : List Entry} {host : Host}
    (built : (SchemaDraft.ofSteps (collectingSteps declarations entries)).build = .ok host.schema) :
    (SchemaDraft.ofSteps (collectingSteps declarations [])).typeId? = host.names := by
  funext name
  rw [SchemaDraft.typeId?_names, collectingSteps_names, ← collectingSteps_names declarations entries,
    ← SchemaDraft.typeId?_names]
  exact (SchemaDraft.build_typeId? built name).symm

theorem collectingSteps_given (declarations : List Declaration) (entries : List Entry) :
    givenDefinitions (collectingSteps declarations entries) = entries.map fun one => (one.id, one.definition) := by
  have noneDeclared (names : List String) :
      ((declarations.map (·.name)).map DraftStep.declare).filterMap (·.definition? names) = [] := by
    rw [List.filterMap_eq_nil_iff, List.forall_mem_map]
    exact fun _ _ => rfl
  rw [givenDefinitions, collectingSteps, List.filterMap_append, noneDeclared, List.nil_append, List.filterMap_map]
  exact congrFun List.filterMap_eq_map' entries

/-- Where every definition finds its place, those of the draft are those that were found. -/
theorem collectingSteps_defines {declarations : List Declaration} {entries : List Entry}
    (placed : (SchemaDraft.ofSteps (collectingSteps declarations entries)).misplaced = []) (id : TypeId)
    (definition : Definition) :
    (SchemaDraft.ofSteps (collectingSteps declarations entries)).Defines id definition ↔
      ∃ one ∈ entries, one.id = id ∧ one.definition = definition := by
  obtain ⟨isPlaced, defines⟩ := ofSteps_placed (collectingSteps declarations entries)
  rw [defines (isPlaced.mp placed), (collectingSteps_declaresFirst declarations entries).defines_iff,
    collectingSteps_given, List.mem_map]
  simp only [Prod.mk.injEq]

/-- Where every definition finds its place, no two are for the same type. -/
theorem collectingSteps_distinct {declarations : List Declaration} {entries : List Entry}
    (placed : (SchemaDraft.ofSteps (collectingSteps declarations entries)).misplaced = []) :
    (entries.map (·.id)).Nodup := by
  have isPlaced := (ofSteps_placed (collectingSteps declarations entries)).1.mp placed
  have distinct := ((collectingSteps_declaresFirst declarations entries).isPlaced_iff.mp isPlaced).2
  rwa [collectingSteps_given, List.map_map] at distinct

/-- The entry holds what the declaration defines. -/
def Entry.IsFor (items : List Item) (host : Host) (declaration : Declaration) (one : Entry) : Prop :=
  host.names declaration.name = some one.id ∧
    ∃ earlier, Host.definition host.names items earlier declaration = .ok (one.definition, one.lent)

/-- The schema of a host is built from the definitions of all declarations among the items, each read next to the
names in front of it. -/
theorem ofItems_entries {items : List Item} {host : Host} (read : ofItems items = .ok host) : ∃ entries,
    (SchemaDraft.ofSteps (collectingSteps (items.filterMap Declaration.ofItem?) entries)).build = .ok host.schema ∧
      List.Forall₂ (fun pair one => host.names pair.2.name = some one.id ∧
        definition host.names items pair.1 pair.2 = .ok (one.definition, one.lent))
          (withEarlier [] (items.filterMap Declaration.ofItem?)) entries ∧
        host.lentProperties = entries.flatMap fun one => one.lent.map fun name => (one.id, name) := by
  obtain ⟨found, gathered, read⟩ := (bind_ok _ _ _).mp read
  dsimp only at gathered read
  split at read
  · next schema built =>
      obtain rfl : schema = host.schema := congrArg (·.schema) (Except.ok.inj read)
      have lent := congrArg (·.lentProperties) (Except.ok.inj read)
      generalize items.filterMap Declaration.ofItem? = declarations at gathered built ⊢
      rw [← collectingSteps_draft] at built
      -- Entries are looked up in the draft without definitions, which knows the same names.
      have declares : declarations.foldl (fun draft declaration => (draft.declare declaration.name).1) .empty =
          SchemaDraft.ofSteps (collectingSteps declarations []) := (collectingSteps_draft declarations []).symm
      rw [declares] at gathered
      obtain ⟨noProblems, rfl⟩ := Checked.toExcept_ok.mp gathered
      have inOrder := Checked.gather_map_ok _ (fun _ _ => entry_error) noProblems
      have declared : ∀ pair ∈ withEarlier [] declarations, pair.2 ∈ declarations := fun pair isPair => by
        simpa only [withEarlier_declarations] using List.mem_map_of_mem (f := Prod.snd) isPair
      refine ⟨_, built, forall₂_filterMap (((List.forall₂_and_left _ _).mpr ⟨declared, inOrder⟩).imp ?_), lent.symm⟩
      rintro ⟨earlier, declaration⟩ found ⟨isDeclared, made⟩
      have isNamed : declaration.name ∈ (SchemaDraft.ofSteps (collectingSteps declarations [])).names := by
        rw [collectingSteps_names, List.mem_eraseDups]
        exact List.mem_map_of_mem isDeclared
      obtain ⟨one, rfl⟩ := entry_found isNamed made
      have ofDraft := entry_some made
      rw [collectingSteps_typeId? built] at ofDraft
      exact ⟨one, rfl, ofDraft⟩
  · cases read

/-- The schema of a host is built from the definitions of all declarations among the items. -/
theorem ofItems_ok {items : List Item} {host : Host} (read : ofItems items = .ok host) : ∃ entries,
    (SchemaDraft.ofSteps (collectingSteps (items.filterMap Declaration.ofItem?) entries)).build = .ok host.schema ∧
      List.Forall₂ (Entry.IsFor items host) (items.filterMap Declaration.ofItem?) entries ∧
        host.lentProperties = entries.flatMap fun one => one.lent.map fun name => (one.id, name) := by
  obtain ⟨entries, built, inOrder, lent⟩ := ofItems_entries read
  refine ⟨entries, built, ?_, lent⟩
  rw [← withEarlier_declarations [] (items.filterMap Declaration.ofItem?), List.forall₂_map_left_iff]
  exact inOrder.imp fun pair one ⟨isNamed, isDefined⟩ => ⟨isNamed, pair.1, isDefined⟩

/-- Where names differ, none stands in front of its own declaration. -/
theorem withEarlier_fresh {earlier : List String} {declarations : List Declaration}
    (distinct : (declarations.map (·.name)).Nodup) (fresh : ∀ name ∈ earlier, name ∉ declarations.map (·.name)) :
    ∀ pair ∈ withEarlier earlier declarations, pair.2.name ∉ pair.1 := by
  induction declarations generalizing earlier with
  | nil => nofun
  | cons declaration rest inductionHypothesis =>
      obtain ⟨isFirst, restDistinct⟩ := List.nodup_cons.mp distinct
      have isNew : declaration.name ∉ earlier := fun present => fresh _ present List.mem_cons_self
      have restFresh : ∀ name ∈ earlier, name ∉ rest.map (·.name) :=
        fun name present inRest => fresh name present (List.mem_cons_of_mem _ inRest)
      cases declaration with
      | struct name fields =>
          refine List.forall_mem_cons.mpr ⟨isNew, inductionHypothesis restDistinct ?_⟩
          exact List.forall_mem_cons.mpr ⟨isFirst, restFresh⟩
      | «enum» name variants =>
          exact List.forall_mem_cons.mpr ⟨isNew, inductionHypothesis restDistinct restFresh⟩

theorem definition_fresh {names : TypeNames} {items : List Item} {earlier : List String} {declaration : Declaration}
    (isNew : declaration.name ∉ earlier) :
    definition names items earlier declaration = definition names items [] declaration := by
  cases declaration with
  | «enum» name variants => rfl
  | struct name fields =>
      have notEarlier : earlier.contains name = [].contains name := by simpa [Declaration.name] using isNew
      simp only [definition, notEarlier]

/-- In a host no name is declared twice, so that the accessors of each struct are its own. -/
theorem ofItems_definitions {items : List Item} {host : Host} (read : ofItems items = .ok host) : ∃ entries,
    (SchemaDraft.ofSteps (collectingSteps (items.filterMap Declaration.ofItem?) entries)).build = .ok host.schema ∧
      (entries.map (·.id)).Nodup ∧
        List.Forall₂ (fun declaration one => host.names declaration.name = some one.id ∧
          definition host.names items [] declaration = .ok (one.definition, one.lent))
            (items.filterMap Declaration.ofItem?) entries ∧
          host.lentProperties = entries.flatMap fun one => one.lent.map fun name => (one.id, name) := by
  obtain ⟨entries, built, inOrder, lent⟩ := ofItems_entries read
  have distinct := collectingSteps_distinct ((SchemaDraft.build_ok _ _).mp built).1
  refine ⟨entries, built, distinct, ?_, lent⟩
  generalize items.filterMap Declaration.ofItem? = declarations at inOrder
  -- Declarations of one name would have entries of one id.
  have ids : entries.map (fun one => some one.id) =
      declarations.map (fun declaration => host.names declaration.name) := by
    conv_rhs => rw [← withEarlier_declarations [] declarations, List.map_map]
    exact forall₂_map_eq inOrder fun pair one ⟨isNamed, _⟩ => isNamed.symm
  have names : (declarations.map (·.name)).Nodup := by
    refine List.Nodup.of_map host.names ?_
    have idsDistinct := distinct.map (Option.some_injective _)
    rw [List.map_map] at idsDistinct ⊢
    exact ids ▸ idsDistinct
  have fresh : ∀ pair ∈ withEarlier [] declarations, pair.2.name ∉ pair.1 := withEarlier_fresh names nofun
  rw [← withEarlier_declarations [] declarations, List.forall₂_map_left_iff]
  refine ((List.forall₂_and_left _ _).mpr ⟨fresh, inOrder⟩).imp fun pair one => ?_
  rintro ⟨isNew, isNamed, made⟩
  exact ⟨isNamed, definition_fresh isNew ▸ made⟩

/-- A name stands for a type of that name. -/
theorem names_found {host : Host} {draft : SchemaDraft} (built : draft.build = .ok host.schema) {name : String}
    {id : TypeId} (isNamed : host.names name = some id) :
    ∃ descriptor, host.schema.get? id = some descriptor ∧ descriptor.ident = name := by
  obtain ⟨descriptor, found, rfl⟩ := Option.map_eq_some_iff.mp isNamed
  obtain ⟨index, below, rfl⟩ := List.mem_iff_getElem.mp (List.mem_of_find?_eq_some found)
  have atPlace : host.schema.get? ⟨index⟩ = some host.schema.types[index] := List.getElem?_eq_getElem below
  rw [(SchemaDraft.build_place built ⟨index⟩ atPlace).1]
  exact ⟨_, atPlace, by simpa using List.find?_some found⟩

/-- It is enum declarations that are defined as enums, with the variants that they declare. -/
theorem definition_enum {names : TypeNames} {items : List Item} {earlier : List String} {declaration : Declaration}
    {found : Definition} {lent : List String} (made : definition names items earlier declaration = .ok (found, lent))
    (variants : List String) : found = .enum variants ↔ ∃ name, declaration = .enum name variants := by
  cases declaration with
  | «enum» name declared =>
      cases made
      simp
  | struct name fields =>
      obtain ⟨body, _, made⟩ := (bind_ok _ _ _).mp made
      cases made
      simp

/-- An enum of the schema is declared among the items, always with its own variants. -/
theorem ofItems_declaresEnum {items : List Item} {host : Host} (read : ofItems items = .ok host) {id : TypeId}
    {variants : List String} (isEnum : host.schema.variants? id = some variants) (others : List String) :
    DeclaresEnum items (host.schema.identOf id) others ↔ others = variants := by
  obtain ⟨entries, built, inOrder, _⟩ := ofItems_ok read
  have defines := collectingSteps_defines ((SchemaDraft.build_ok _ _).mp built).1
  obtain ⟨descriptor, found, isKind⟩ := Option.bind_eq_some_iff.mp isEnum
  have identOf : host.schema.identOf id = descriptor.ident := by rw [Schema.identOf, found]
  rw [identOf, ← enum_mem_declarations]
  obtain ⟨ident, _, describes⟩ := (SchemaDraft.build_describes built id descriptor).mp found
  cases describes with
  | struct => cases isKind
  | «enum» _ defined =>
      cases isKind
      obtain ⟨one, isEntry, rfl, isVariants⟩ := (defines id _).mp defined
      obtain ⟨declaration, isDeclared, isNamed, _, made⟩ := forall₂_right inOrder one isEntry
      obtain ⟨name, rfl⟩ := (definition_enum made variants).mp isVariants
      obtain ⟨_, nameFound, rfl⟩ := names_found built isNamed
      rw [found] at nameFound
      cases nameFound
      constructor
      · intro otherDeclared
        obtain ⟨other, isOther, otherNamed, _, otherMade⟩ := forall₂_left inOrder _ otherDeclared
        have sameId : one.id = other.id := Option.some.inj (isNamed.symm.trans otherNamed)
        have isOthers := (definition_enum otherMade others).mpr ⟨_, rfl⟩
        have otherDefined := (defines one.id _).mpr ⟨other, isOther, sameId.symm, isOthers⟩
        cases SchemaDraft.defines_functional _ _ _ _ defined otherDefined
        rfl
      · rintro rfl
        exact isDeclared

/-- Where the structs in the schema of a host come from. -/
structure IsCollected (items : List Item) (host : Host) (draft : SchemaDraft) : Prop where
  built : draft.build = .ok host.schema
  defined : ∀ id definition, draft.Defines id (.struct definition) → ∃ name fields,
    DeclaresStruct items name fields ∧ host.names name = some id ∧ IsGranted items host.names name fields definition
  declared : ∀ name fields, DeclaresStruct items name fields → ∃ id definition, host.names name = some id ∧
    draft.Defines id (.struct definition) ∧ IsGranted items host.names name fields definition
  lent : ∀ id member, (id, member) ∈ host.lentProperties → ∃ owner, host.names owner = some id ∧
    HasLendingGetter items owner member

theorem Entry.IsFor.isGranted {items : List Item} (sound : ∀ item ∈ items, item.IsSound) {host : Host}
    {name : String} {fields : List Field} {one : Entry} (isFor : one.IsFor items host (.struct name fields))
    (declared : DeclaresStruct items name fields) :
    ∃ struct, one.definition = .struct struct ∧ IsGranted items host.names name fields struct := by
  obtain ⟨_, earlier, defined⟩ := isFor
  exact definition_isGranted sound declared defined

theorem ofItems_isCollected {items : List Item} (sound : ∀ item ∈ items, item.IsSound) {host : Host}
    (read : ofItems items = .ok host) : ∃ draft, IsCollected items host draft := by
  obtain ⟨entries, built, inOrder, lentProperties⟩ := ofItems_ok read
  have defines := collectingSteps_defines ((SchemaDraft.build_ok _ _).mp built).1
  refine ⟨_, built, ?defined, ?declared, ?lent⟩
  case defined =>
    intro id struct defined
    obtain ⟨one, isEntry, rfl, isStruct⟩ := (defines id _).mp defined
    obtain ⟨declaration, isDeclared, isFor⟩ := forall₂_right inOrder one isEntry
    cases declaration with
    | struct name fields =>
        have declared := mem_declarations.mp isDeclared
        obtain ⟨other, same, granted⟩ := isFor.isGranted sound declared
        rw [isStruct] at same
        cases same
        exact ⟨name, fields, declared, isFor.1, granted⟩
    | «enum» name variants =>
        obtain ⟨_, earlier, made⟩ := isFor
        rw [isStruct] at made
        cases made
  case declared =>
    intro name fields declared
    obtain ⟨one, isEntry, isFor⟩ := forall₂_left inOrder _ (mem_declarations.mpr declared)
    obtain ⟨struct, isStruct, granted⟩ := isFor.isGranted sound declared
    exact ⟨one.id, struct, isFor.1, (defines one.id _).mpr ⟨one, isEntry, rfl, isStruct⟩, granted⟩
  case lent =>
    intro id member isLent
    rw [lentProperties] at isLent
    obtain ⟨one, isEntry, isProperty⟩ := List.mem_flatMap.mp isLent
    obtain ⟨name, inEntry, same⟩ := List.mem_map.mp isProperty
    cases same
    obtain ⟨declaration, _, isNamed, _, made⟩ := forall₂_right inOrder one isEntry
    exact ⟨declaration.name, isNamed, definition_lends sound made member inEntry⟩

/-- What a struct type permits is open to others on the struct of its name or on its base chain. -/
structure KeepsTo (items : List Item) (owner : String) (type : StructType) : Prop where
  reads : ∀ member ∈ type.members, member.readable = true → LetsRead items owner member.name member.kind
  writes : ∀ member ∈ type.members, member.settable = true → LetsWrite items owner member.name member.kind
  declared : ∃ fields, DeclaresStruct items owner fields
  literal : .literal ∈ type.constructors →
    ∀ fields, DeclaresStruct items owner fields → ∀ field ∈ fields, field.isPublic = true
  functions : ∀ name parameters, .function name parameters ∈ type.constructors → HasConstructor items owner name

namespace IsCollected

variable {items : List Item} {host : Host} {draft : SchemaDraft} (collected : IsCollected items host draft)

include collected

theorem named {name : String} {id : TypeId} (isNamed : host.names name = some id) :
    ∃ descriptor, host.schema.get? id = some descriptor ∧ descriptor.ident = name :=
  names_found collected.built isNamed

theorem name_eq {name : String} {id : TypeId}
    (isNamed : host.names name = some id) {descriptor : TypeDescriptor}
    (found : host.schema.get? id = some descriptor) : name = descriptor.ident := by
  obtain ⟨other, otherFound, rfl⟩ := collected.named isNamed
  rw [found] at otherFound
  cases otherFound
  rfl

/-- A definition in the draft is that of the struct which the id stands for. -/
theorem isGranted {name : String} {id : TypeId}
    (isNamed : host.names name = some id) {definition : StructDefinition}
    (defined : draft.Defines id (.struct definition)) :
    ∃ fields, DeclaresStruct items name fields ∧ IsGranted items host.names name fields definition := by
  obtain ⟨other, fields, declared, otherNamed, granted⟩ := collected.defined id definition defined
  obtain ⟨descriptor, found, rfl⟩ := collected.named isNamed
  obtain rfl := collected.name_eq otherNamed found
  exact ⟨fields, declared, granted⟩

/-- The definitions along a base chain belong to the structs along the chain of dereferences. -/
theorem along {name : String} {id : TypeId}
    (isNamed : host.names name = some id) {definition : StructDefinition}
    (defined : draft.Defines id (.struct definition)) {bases : List StructDefinition}
    (chain : BaseDefinitions draft.Defines definition.base bases) :
    ∀ one ∈ definition :: bases, ∃ holder fields, ReflTransGen (Dereferences items) name holder ∧
      IsGranted items host.names holder fields one := by
  -- Each step along the chain goes from a name to the one that its `impl` block gives as the target.
  induction bases generalizing name id definition with
  | nil =>
      obtain ⟨fields, _, granted⟩ := collected.isGranted isNamed defined
      exact List.forall_mem_singleton.mpr ⟨name, fields, .refl, granted⟩
  | cons next further inductionHypothesis =>
      obtain ⟨fields, _, granted⟩ := collected.isGranted isNamed defined
      refine List.forall_mem_cons.mpr ⟨⟨name, fields, .refl, granted⟩, fun one isBase => ?_⟩
      generalize isStart : definition.base = start at chain
      cases chain with
      | cons base _ _ nextDefined chain =>
          obtain ⟨target, dereferences, targetNamed⟩ := granted.base base isStart
          obtain ⟨holder, others, steps, grants⟩ := inductionHypothesis targetNamed nextDefined chain one isBase
          exact ⟨holder, others, .head dereferences steps, grants⟩

/-- Each member of a struct is accessible, as far as it counts as such, on a struct along the chain. -/
theorem accessible {name : String} {id : TypeId}
    (isNamed : host.names name = some id) {definition : StructDefinition}
    (defined : draft.Defines id (.struct definition)) {bases : List StructDefinition}
    (chain : BaseDefinitions draft.Defines definition.base bases) :
    ∀ member ∈ SchemaDraft.layOut id definition.members bases, ∃ holder,
      ReflTransGen (Dereferences items) name holder ∧ IsAccessible items holder member.toMemberSpec := by
  intro member present
  have isSpec := List.mem_map_of_mem (f := (·.toMemberSpec)) present
  rw [SchemaDraft.layOut_flattened] at isSpec
  obtain ⟨one, isOne, declares⟩ := List.mem_flatMap.mp isSpec
  obtain ⟨holder, _, steps, grants⟩ := collected.along isNamed defined chain one (List.mem_reverse.mp isOne)
  exact ⟨holder, steps, grants.members _ declares⟩

/-- A struct of the schema has the definition of each declaration of its name. -/
theorem describes {id : TypeId} {descriptor : TypeDescriptor} {type : StructType}
    (found : host.schema.get? id = some descriptor) (isStruct : descriptor.kind = .struct type) :
    ∃ definition bases, host.names descriptor.ident = some id ∧ draft.Defines id (.struct definition) ∧
      BaseDefinitions draft.Defines definition.base bases ∧
        type = ⟨definition.base, SchemaDraft.layOut id definition.members bases, definition.constructors⟩ ∧
          (∃ fields, DeclaresStruct items descriptor.ident fields) ∧
            ∀ fields, DeclaresStruct items descriptor.ident fields →
              IsGranted items host.names descriptor.ident fields definition := by
  obtain ⟨ident, _, describes⟩ := (SchemaDraft.build_describes collected.built id descriptor).mp found
  cases describes with
  | «enum» variants => cases isStruct
  | struct definition bases defined chain =>
      cases isStruct
      have isNamed : host.names ident = some id := by
        obtain ⟨name, _, _, isNamed, _⟩ := collected.defined id definition defined
        obtain rfl := collected.name_eq isNamed found
        exact isNamed
      obtain ⟨fields, declared, _⟩ := collected.isGranted isNamed defined
      refine ⟨definition, bases, isNamed, defined, chain, rfl, ⟨fields, declared⟩, ?_⟩
      -- Every declaration of the name has a definition, and all of them stand at the same place.
      intro others otherDeclared
      obtain ⟨same, other, otherNamed, otherDefined, otherGranted⟩ := collected.declared ident others otherDeclared
      rw [isNamed] at otherNamed
      cases otherNamed
      cases draft.defines_functional id _ _ defined otherDefined
      exact otherGranted

/-- The base chain of a struct goes along the structs that it dereferences to. -/
theorem baseChain {name : String} {id : TypeId} (isNamed : host.names name = some id) (budget : Nat) :
    ∀ one ∈ host.baseChain budget (some id), ∃ holder,
      ReflTransGen (Dereferences items) name holder ∧ host.names holder = some one := by
  induction budget generalizing name id with
  | zero => nofun
  | succ budget inductionHypothesis =>
      refine List.forall_mem_cons.mpr ⟨⟨name, .refl, isNamed⟩, fun one present => ?_⟩
      cases isBase : ((host.schema.get? id).bind (·.struct?)).bind (·.base) with
      | none =>
          rw [isBase] at present
          cases budget <;> cases present
      | some base =>
          rw [isBase] at present
          obtain ⟨type, isType, isBase⟩ := Option.bind_eq_some_iff.mp isBase
          obtain ⟨descriptor, found, isStruct⟩ := Option.bind_eq_some_iff.mp isType
          obtain ⟨definition, bases, _, _, _, rfl, ⟨fields, declared⟩, granted⟩ :=
            collected.describes found (TypeDescriptor.struct?_eq_some.mp isStruct)
          obtain ⟨target, dereferences, targetNamed⟩ := (granted fields declared).base base isBase
          rw [← collected.name_eq isNamed found] at dereferences
          obtain ⟨holder, steps, holderNamed⟩ := inductionHypothesis targetNamed one present
          exact ⟨holder, .head dereferences steps, holderNamed⟩

/-- A property that counts as lent has a getter that lends it. -/
theorem lendsMember {name member : String} {id : TypeId} (isNamed : host.names name = some id)
    (isLent : host.isLent id member = true) : LendsMember items name member := by
  obtain ⟨one, inChain, lends⟩ := List.any_eq_true.mp isLent
  obtain ⟨holder, steps, holderNamed⟩ := collected.baseChain isNamed _ one inChain
  obtain ⟨owner, ownerNamed, getter⟩ := collected.lent one member (List.contains_iff_mem.mp lends)
  obtain ⟨descriptor, found, rfl⟩ := collected.named holderNamed
  obtain rfl := collected.name_eq ownerNamed found
  exact ⟨_, steps, getter⟩

theorem keepsTo {id : TypeId} {descriptor : TypeDescriptor}
    {type : StructType} (found : host.schema.get? id = some descriptor) (isStruct : descriptor.kind = .struct type) :
    KeepsTo items descriptor.ident type := by
  obtain ⟨definition, bases, isNamed, defined, chain, rfl, ⟨fields, declared⟩, granted⟩ :=
    collected.describes found isStruct
  have accessible := collected.accessible isNamed defined chain
  refine ⟨?reads, ?writes, ⟨fields, declared⟩, ?literal, (granted fields declared).functions⟩
  case reads =>
    intro member present readable
    obtain ⟨holder, steps, access⟩ := accessible member present
    exact ⟨holder, steps, access.read readable⟩
  case writes =>
    intro member present settable
    obtain ⟨holder, steps, access⟩ := accessible member present
    exact ⟨holder, steps, access.write settable⟩
  case literal =>
    intro isLiteral others otherDeclared
    exact (granted others otherDeclared).literal isLiteral

end IsCollected

end Host

end ObjectMapping
