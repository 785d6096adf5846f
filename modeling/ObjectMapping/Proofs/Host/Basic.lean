/-
This file proves that the structs of a host keep to what the items let others do with them. A member that counts
as readable or settable is accessible on a struct of the base chain, and a constructor is a public one.
-/

import ObjectMapping.Host.Basic
import ObjectMapping.Proofs.Host.Accessor
import ObjectMapping.Proofs.Schema.Description

namespace ObjectMapping

open Relation Source

namespace Host

section

variable (items : List Item) (names : TypeNames) (owner : String)

/-- A member that counts as readable or settable is accessible where it is declared. -/
structure IsAccessible (spec : MemberSpec) : Prop where
  read : spec.readable = true → CanRead items owner spec.name spec.kind
  write : spec.settable = true → CanWrite items owner spec.name spec.kind

/-- The definition of a struct with the given fields keeps to what the items declare of it. -/
structure IsGranted (fields : List Field) (definition : StructDefinition) : Prop where
  base : ∀ id ∈ definition.base, ∃ target, Dereferences items owner target ∧ names target = some id
  members : ∀ spec ∈ definition.members, IsAccessible items owner spec
  literal : .literal ∈ definition.constructors → ∀ field ∈ fields, field.isPublic = true
  /-- Where a struct literal is offered, no property takes the place of a field. -/
  ownFields : .literal ∈ definition.constructors → List.Forall₂
    (fun field spec => ∃ required, spec = fieldMember names definition.base field required) fields
      (definition.members.filter (·.kind = .field))
  functions : ∀ name parameters, .function name parameters ∈ definition.constructors →
    HasConstructor items owner name

end

variable {items : List Item} {names : TypeNames} {owner : String}

theorem mem_declarations {name : String} {fields : List Field} :
    .struct name fields ∈ items.filterMap Declaration.ofItem? ↔ DeclaresStruct items name fields := by
  rw [List.mem_filterMap]
  constructor
  · rintro ⟨item, isItem, declares⟩
    cases item with
    | struct item =>
        rw [Declaration.ofItem?] at declares
        split at declares
        · cases declares
        · next notGeneric =>
            obtain ⟨found, areFields, same⟩ := Option.map_eq_some_iff.mp declares
            cases same
            exact ⟨item, isItem, Bool.eq_false_iff.mpr notGeneric, rfl, areFields⟩
    | «enum» item =>
        rw [Declaration.ofItem?] at declares
        split at declares <;> cases declares
    | impl | trait | other => cases declares
  · rintro ⟨item, isItem, notGeneric, rfl, areFields⟩
    exact ⟨.struct item, isItem, by simp [Declaration.ofItem?, notGeneric, areFields]⟩

theorem enum_mem_declarations {name : String} {variants : List String} :
    .enum name variants ∈ items.filterMap Declaration.ofItem? ↔ DeclaresEnum items name variants := by
  rw [List.mem_filterMap]
  constructor
  · rintro ⟨item, isItem, declares⟩
    cases item with
    | «enum» item =>
        rw [Declaration.ofItem?] at declares
        split at declares
        · cases declares
        · next plain =>
            cases declares
            simp only [Bool.or_eq_true, not_or, Bool.not_eq_true, List.any_eq_false, Bool.not_eq_eq_eq_not,
              Bool.not_true, Bool.not_eq_false] at plain
            exact ⟨item, isItem, plain.1, rfl, plain.2, rfl⟩
    | struct item =>
        rw [Declaration.ofItem?] at declares
        split at declares
        · cases declares
        · obtain ⟨_, _, same⟩ := Option.map_eq_some_iff.mp declares
          cases same
    | impl | trait | other => cases declares
  · rintro ⟨item, isItem, notGeneric, rfl, allUnit, rfl⟩
    have noData : item.variants.any (fun variant => !variant.isUnit) = false := by simpa using allUnit
    exact ⟨.enum item, isItem, by simp [Declaration.ofItem?, notGeneric, noData]⟩

/-- Fields become members in their order, each with what its own options say. -/
theorem fieldMembers_read {base : Option TypeId} {fields : List Field} {members : List MemberSpec}
    (made : fieldMembers names base fields = .ok members) :
    List.Forall₂ (fun field spec => ∃ required, isRequired false field.attributes = .ok required ∧
      spec = fieldMember names base field required) fields members := by
  induction fields generalizing members with
  | nil =>
      cases made
      exact .nil
  | cons field rest inductionHypothesis =>
      obtain ⟨required, isRead, made⟩ := (bind_ok _ _ _).mp made
      obtain ⟨others, othersMade, made⟩ := (bind_ok _ _ _).mp made
      cases made
      exact .cons ⟨required, isRead, rfl⟩ (inductionHypothesis othersMade)

theorem fieldMembers_ok {base : Option TypeId} {fields : List Field} {members : List MemberSpec}
    (made : fieldMembers names base fields = .ok members) :
    List.Forall₂ (fun field spec => ∃ required, spec = fieldMember names base field required) fields members :=
  (fieldMembers_read made).imp fun _ _ ⟨required, _, same⟩ => ⟨required, same⟩

/-- Properties leave fields that can be read as they are. -/
theorem addProperty_fields {property : Property} {members : List MemberSpec}
    (readable : ∀ spec ∈ members, spec.kind = .field → spec.readable = true) :
    (addProperty property members).filter (·.kind = .field) = members.filter (·.kind = .field) := by
  induction members with
  | nil => rfl
  | cons first rest inductionHypothesis =>
      obtain ⟨ofFirst, ofRest⟩ := List.forall_mem_cons.mp readable
      unfold addProperty
      split
      · cases kind : first.kind with
        | field => rw [ofFirst kind, if_pos rfl]
        | property =>
            have notField : ¬(if first.readable then first else property.member first.required).kind = .field := by
              split
              · simp [kind]
              · simp [Property.member]
            rw [List.filter_cons_of_neg (by simpa using notField), List.filter_cons_of_neg (by simp [kind])]
      · rw [List.filter_cons, List.filter_cons, inductionHypothesis ofRest]

theorem addProperties_fields (properties : List Property) {members : List MemberSpec}
    (readable : ∀ spec ∈ members, spec.kind = .field → spec.readable = true) :
    (properties.foldl (fun all property => addProperty property all) members).filter (·.kind = .field) =
      members.filter (·.kind = .field) := by
  refine List.foldlRecOn (motive := fun (all : List MemberSpec) => all.filter (·.kind = .field) =
    members.filter (·.kind = .field)) properties _ rfl fun all kept property _ => ?_
  refine (addProperty_fields fun spec present isField => ?_).trans kept
  have isKept : spec ∈ members.filter (·.kind = .field) := kept ▸ List.mem_filter.mpr ⟨present, by simpa using isField⟩
  exact readable spec (List.mem_of_mem_filter isKept) isField

theorem addProperty_isAccessible {property : Property} (granted : property.IsGranted items owner)
    {members : List MemberSpec} (accessible : ∀ spec ∈ members, IsAccessible items owner spec) :
    ∀ spec ∈ addProperty property members, IsAccessible items owner spec := by
  have ofProperty (required : Bool) : IsAccessible items owner (property.member required) :=
    ⟨granted.readable, granted.settable⟩
  induction members with
  | nil => exact List.forall_mem_singleton.mpr (ofProperty false)
  | cons first rest inductionHypothesis =>
      obtain ⟨ofFirst, ofRest⟩ := List.forall_mem_cons.mp accessible
      unfold addProperty
      split
      · refine List.forall_mem_cons.mpr ⟨?_, ofRest⟩
        split
        · exact ofFirst
        · exact ofProperty first.required
      · exact List.forall_mem_cons.mpr ⟨ofFirst, inductionHypothesis ofRest⟩

/-- A struct is constructed by its own functions, or else by a literal where all fields are public. -/
theorem constructorsOf_cases {accessors : Accessors} {fields : List Field} {way : Constructor}
    (present : way ∈ constructorsOf accessors fields) :
    way ∈ accessors.constructors ∨ (way = .literal ∧ ∀ field ∈ fields, field.isPublic = true) := by
  unfold constructorsOf at present
  split at present
  · exact .inl present
  · split at present
    · next allPublic => exact .inr ⟨List.mem_singleton.mp present, List.all_eq_true.mp allPublic⟩
    · cases present

theorem structDefinition_isGranted {accessors : Accessors} (granted : accessors.AreGranted items names owner)
    {fields : List Field} (declared : DeclaresStruct items owner fields) {body : StructDefinition}
    (made : structDefinition names accessors fields = .ok body) : IsGranted items names owner fields body := by
  obtain ⟨members, membersMade, made⟩ := (bind_ok _ _ _).mp made
  cases made
  have allPublic : .literal ∈ constructorsOf accessors fields → ∀ field ∈ fields, field.isPublic = true := by
    intro isLiteral
    obtain isFunction | ⟨_, allPublic⟩ := constructorsOf_cases isLiteral
    · obtain ⟨function, parameters, same, _⟩ := granted.constructors _ isFunction
      cases same
    · exact allPublic
  refine ⟨granted.base, ?members, allPublic, ?ownFields, ?functions⟩
  case members =>
    refine List.foldlRecOn (motive := fun all => ∀ spec ∈ all, IsAccessible items owner spec) accessors.properties
      _ ?_ fun all accessible property present =>
        addProperty_isAccessible (granted.properties property present) accessible
    intro spec present
    obtain ⟨field, isField, required, rfl⟩ := forall₂_right (fieldMembers_ok membersMade) spec present
    have ofField (isPublic : field.isPublic = true) : HasPublicField items owner field.name :=
      ⟨fields, declared, field, isField, rfl, isPublic⟩
    exact ⟨ofField, ofField⟩
  case ownFields =>
    intro isLiteral
    have inOrder := fieldMembers_ok membersMade
    have areFields : members.filter (·.kind = .field) = members := by
      refine List.filter_eq_self.mpr fun spec present => ?_
      obtain ⟨field, _, required, rfl⟩ := forall₂_right inOrder spec present
      rfl
    have kept := addProperties_fields accessors.properties fun spec present (_ : spec.kind = .field) => by
      obtain ⟨field, isField, required, rfl⟩ := forall₂_right inOrder spec present
      exact allPublic isLiteral field isField
    rw [kept, areFields]
    exact inOrder
  case functions =>
    intro name parameters isFunction
    obtain isFunction | ⟨isLiteral, _⟩ := constructorsOf_cases isFunction
    · obtain ⟨function, others, same, has⟩ := granted.constructors _ isFunction
      cases same
      exact has
    · cases isLiteral

/-- The accessors of a declaration are granted; those of a repeated name are none. -/
theorem firstAccessors_areGranted (sound : ∀ item ∈ items, item.IsSound) (names : TypeNames) (earlier : List String)
    (owner : String) :
    (if earlier.contains owner then Accessors.none else accessorsOf names items owner).AreGranted
      items names owner := by
  split
  · exact Accessors.none_areGranted
  · exact accessorsOf_areGranted sound names owner

theorem definition_isGranted (sound : ∀ item ∈ items, item.IsSound) {earlier : List String} {fields : List Field}
    (declared : DeclaresStruct items owner fields) {body : Definition} {lent : List String}
    (made : definition names items earlier (.struct owner fields) = .ok (body, lent)) :
    ∃ struct, body = .struct struct ∧ IsGranted items names owner fields struct := by
  obtain ⟨struct, structMade, made⟩ := (bind_ok _ _ _).mp made
  cases made
  exact ⟨struct, rfl,
    structDefinition_isGranted (firstAccessors_areGranted sound names earlier owner) declared structMade⟩

/-- What counts as lent is lent by a getter of the struct. -/
theorem definition_lends (sound : ∀ item ∈ items, item.IsSound) {earlier : List String} {declaration : Declaration}
    {body : Definition} {lent : List String} (made : definition names items earlier declaration = .ok (body, lent)) :
    ∀ name ∈ lent, HasLendingGetter items declaration.name name := by
  cases declaration with
  | «enum» name variants =>
      cases made
      nofun
  | struct name fields =>
      obtain ⟨struct, _, made⟩ := (bind_ok _ _ _).mp made
      cases made
      intro member isLent
      obtain ⟨property, isProperty, rfl⟩ := List.mem_map.mp isLent
      obtain ⟨present, lends⟩ := List.mem_filter.mp isProperty
      exact ((firstAccessors_areGranted sound names earlier name).properties property present).lent lends

theorem withEarlier_declarations (earlier : List String) (declarations : List Declaration) :
    (withEarlier earlier declarations).map Prod.snd = declarations := by
  induction declarations generalizing earlier with
  | nil => rfl
  | cons declaration rest inductionHypothesis =>
      cases declaration with
      | struct name fields => exact congrArg _ (inductionHypothesis _)
      | «enum» name variants => exact congrArg _ (inductionHypothesis _)

theorem entry_some {draft : SchemaDraft} {earlier : List String} {declaration : Declaration} {one : Entry}
    (made : entry draft items earlier declaration = .ok (some one)) :
    draft.typeId? declaration.name = some one.id ∧
      definition draft.typeId? items earlier declaration = .ok (one.definition, one.lent) := by
  unfold entry at made
  split at made
  · cases made
  · next id isNamed =>
      split at made
      · cases made
      · next body lent isDefined =>
          cases made
          exact ⟨isNamed, isDefined⟩

theorem entry_found {draft : SchemaDraft} {earlier : List String} {declaration : Declaration}
    (isNamed : declaration.name ∈ draft.names) {found : Option Entry}
    (made : entry draft items earlier declaration = .ok found) : ∃ one, found = some one := by
  unfold entry at made
  split at made
  · next missing => exact absurd isNamed (draft.typeId?_none missing)
  · split at made
    · cases made
    · cases made
      exact ⟨_, rfl⟩

theorem entry_error {draft : SchemaDraft} {earlier : List String} {declaration : Declaration}
    {problems : List Problem} (refused : entry draft items earlier declaration = .error problems) :
    problems ≠ [] := by
  unfold entry at refused
  split at refused
  · cases refused
  · split at refused
    · cases refused
      exact List.cons_ne_nil _ _
    · cases refused

/-- Traits are no types and give no access to any. -/
theorem ofItems_filter {keep : Item → Bool} (others : ∀ item, keep item = false → ∃ declared, item = .trait declared)
    (items : List Item) : ofItems (items.filter keep) = ofItems items := by
  have declarations : (items.filter keep).filterMap Declaration.ofItem? = items.filterMap Declaration.ofItem? := by
    rw [List.filterMap_filter]
    refine List.filterMap_congr fun item _ => ?_
    split
    · rfl
    · next left =>
        obtain ⟨declared, rfl⟩ := others item (Bool.eq_false_iff.mpr left)
        rfl
  have accessors (names : TypeNames) (owner : String) :
      accessorsOf names (items.filter keep) owner = accessorsOf names items owner := by
    rw [accessorsOf, accessorsOf, List.foldl_filter]
    congr 1
    funext accessors item
    split
    · rfl
    · next left =>
        obtain ⟨declared, rfl⟩ := others item (Bool.eq_false_iff.mpr left)
        rfl
  have entries (draft : SchemaDraft) (earlier : List String) (declaration : Declaration) :
      entry draft (items.filter keep) earlier declaration = entry draft items earlier declaration := by
    unfold entry
    cases declaration with
    | struct name fields => simp only [definition, accessors]
    | «enum» name variants => rfl
  unfold ofItems
  simp only [declarations, entries]

end Host

end ObjectMapping
