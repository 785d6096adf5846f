/-
This file states which members a struct has of its own: those of its fields, where a property stands in for a
private field of its name, and behind them the properties that are no field's. Nothing is lost, and no name
occurs twice.
-/

import ObjectMapping.Proofs.Host.Collected
import ObjectMapping.Proofs.Host.Offered
import ObjectMapping.Proofs.Source.File

namespace ObjectMapping

open Source

/-- The members that a struct declares itself. -/
def StructType.ownSpecs (type : StructType) : List MemberSpec :=
  (type.members.filter (!·.inherited)).map (·.toMemberSpec)

/-- The own members of a struct are those of its definition. -/
theorem SchemaDraft.layOut_ownSpecs (id : TypeId) (own : List MemberSpec) (bases : List StructDefinition) :
    ((layOut id own bases).filter (!·.inherited)).map (·.toMemberSpec) = own := by
  have kept := congrArg (List.filterMap fun spec => if spec.2 then none else some spec.1) (layOut_specs id own bases)
  rw [List.filterMap_map, List.filterMap_append, List.filterMap_map] at kept
  have noneInherited : (bases.reverse.flatMap fun definition => definition.members.map (·, true)).filterMap
      (fun spec : MemberSpec × Bool => if spec.2 then none else some spec.1) = [] := by
    rw [List.filterMap_eq_nil_iff]
    intro spec present
    obtain ⟨definition, _, isMember⟩ := List.mem_flatMap.mp present
    obtain ⟨member, _, rfl⟩ := List.mem_map.mp isMember
    rfl
  rw [noneInherited, List.nil_append] at kept
  rw [← List.filterMap_eq_map, List.filterMap_filter]
  refine Eq.trans (List.filterMap_congr fun member _ => ?_) (kept.trans List.filterMap_some)
  cases isInherited : member.inherited <;> simp [isInherited]

namespace Host

theorem addProperty_eq (property : Property) (members : List MemberSpec) :
    addProperty property members = amendOrAppend (fun member => member.name == property.name)
      (fun member => if member.readable then member else property.member member.required)
        (property.member false) members := by
  induction members with
  | nil => rfl
  | cons member rest inductionHypothesis => rw [addProperty, amendOrAppend, inductionHypothesis]

/-- What a member becomes next to the properties: that of its name stands in for it, unless it can be reached. -/
def standIn (properties : List Property) (member : MemberSpec) : MemberSpec :=
  match properties.find? fun property => property.name == member.name with
  | some property => if member.readable then member else property.member member.required
  | none => member

/-- The properties that are no member's. -/
def furtherProperties (properties : List Property) (members : List MemberSpec) : List Property :=
  properties.filter fun property => property.name ∉ members.map (·.name)

theorem standIn_name (properties : List Property) (member : MemberSpec) :
    (standIn properties member).name = member.name := by
  unfold standIn
  split
  · next property found =>
      split
      · rfl
      · have same := List.find?_some found
        exact beq_iff_eq.mp same
  · rfl

theorem standIn_names (properties : List Property) (members : List MemberSpec) :
    (members.map (standIn properties)).map (·.name) = members.map (·.name) := by
  rw [List.map_map]
  exact List.map_congr_left fun member _ => standIn_name properties member

theorem standIn_missing {properties : List Property} {member : MemberSpec}
    (missing : member.name ∉ properties.map (·.name)) : standIn properties member = member := by
  have none : (properties.find? fun property => property.name == member.name) = none := by
    refine List.find?_eq_none.mpr fun property present same => missing ?_
    exact List.mem_map.mpr ⟨property, present, beq_iff_eq.mp same⟩
  rw [standIn, none]

theorem standIn_concat_own {properties : List Property} {property : Property} {member : MemberSpec}
    (isNew : property.name ∉ properties.map (·.name)) (own : member.name = property.name) :
    standIn (properties ++ [property]) member =
      if member.readable then member else property.member member.required := by
  have none : (properties.find? fun other => other.name == member.name) = none := by
    refine List.find?_eq_none.mpr fun other present same => isNew ?_
    exact List.mem_map.mpr ⟨other, present, (beq_iff_eq.mp same).trans own⟩
  rw [standIn, List.find?_append, none]
  simp [own]

theorem standIn_concat_other (properties : List Property) {property : Property} {member : MemberSpec}
    (other : member.name ≠ property.name) : standIn (properties ++ [property]) member = standIn properties member := by
  have noMatch : [property].find? (fun property => property.name == member.name) = none := by simpa using other.symm
  rw [standIn, standIn, List.find?_append, noMatch, Option.or_none]

theorem furtherProperties_concat (properties : List Property) (property : Property) (members : List MemberSpec) :
    furtherProperties (properties ++ [property]) members = furtherProperties properties members ++
      if property.name ∈ members.map (·.name) then [] else [property] := by
  rw [furtherProperties, List.filter_append]
  congr 1
  split
  · next isField => simpa using isField
  · next isFurther => simpa using isFurther

/-- Each property is added to what the earlier ones leave. -/
theorem addProperties_eq {properties : List Property} {members : List MemberSpec}
    (differ : (properties.map (·.name)).Nodup) (distinct : (members.map (·.name)).Nodup) :
    properties.foldl (fun all property => addProperty property all) members =
      members.map (standIn properties) ++ (furtherProperties properties members).map (·.member false) := by
  induction properties using List.reverseRecOn with
  | nil =>
      rw [List.map_congr_left fun member _ => standIn_missing List.not_mem_nil, List.map_id']
      exact (List.append_nil _).symm
  | append_singleton properties property inductionHypothesis =>
      rw [List.map_append, List.map_singleton, ← List.concat_eq_append, List.nodup_concat] at differ
      obtain ⟨isNew, differ⟩ := differ
      rw [List.foldl_append, List.foldl_cons, List.foldl_nil, inductionHypothesis differ, addProperty_eq,
        furtherProperties_concat]
      split
      · next isField =>
          have sameNames := standIn_names properties members
          rw [amendOrAppend_append _ _ _ _ (sameNames ▸ isField), amendOrAppend_old _ _ _ _ (sameNames ▸ distinct)
            (sameNames ▸ isField), List.append_nil, List.map_map]
          congr 1
          refine List.map_congr_left fun member _ => ?_
          rw [Function.comp_apply, standIn_name]
          split
          · next own =>
              have missing : member.name ∉ properties.map (·.name) := beq_iff_eq.mp own ▸ isNew
              rw [standIn_missing missing, standIn_concat_own isNew (beq_iff_eq.mp own)]
          · next other => exact (standIn_concat_other properties fun same => other (beq_iff_eq.mpr same)).symm
      · next isFurther =>
          have noMember : property.name ∉ (members.map (standIn properties) ++
              (furtherProperties properties members).map (·.member false)).map (·.name) := by
            rw [List.map_append, List.mem_append, standIn_names, List.map_map, not_or]
            exact ⟨isFurther, fun present => isNew (List.map_subset _ (List.filter_subset_self _) present)⟩
          rw [amendOrAppend_new _ _ _ _ noMember, List.append_assoc, List.map_append, List.map_singleton]
          congr 1
          refine List.map_congr_left fun member present => (standIn_concat_other properties fun same => ?_).symm
          exact isFurther (List.mem_map.mpr ⟨member, present, same⟩)

theorem addProperty_keepsNames (property : Property) (members : List MemberSpec) :
    members.map (·.name) <+: (addProperty property members).map (·.name) := by
  induction members with
  | nil => exact List.nil_prefix
  | cons member rest inductionHypothesis =>
      unfold addProperty
      split
      · next same =>
          have kept : (if member.readable then member else property.member member.required).name = member.name := by
            split
            · rfl
            · exact (beq_iff_eq.mp same).symm
          simpa only [List.map_cons, kept] using List.prefix_rfl
      · exact (List.prefix_cons_inj _).mpr inductionHypothesis

/-- Fields keep their names at their places. -/
theorem addProperties_keepNames (properties : List Property) (members : List MemberSpec) :
    members.map (·.name) <+:
      (properties.foldl (fun all property => addProperty property all) members).map (·.name) := by
  refine List.foldlRecOn (motive := fun (all : List MemberSpec) => members.map (·.name) <+: all.map (·.name)) properties
    _ List.prefix_rfl fun all kept property _ => ?_
  exact kept.trans (addProperty_keepsNames property all)

section

variable (items : List Item) (owner : String)

/-- There is a public accessor of the name. -/
def IsAccessed (name : String) : Prop := HasGetter items owner name ∨ HasSetter items owner ("set_" ++ name)

/-- A property can be read and set as far as there are accessors for it. -/
structure FollowsAccessors (spec : MemberSpec) : Prop where
  readable : spec.readable = true ↔ HasGetter items owner spec.name
  settable : spec.settable = true ↔ HasSetter items owner ("set_" ++ spec.name)

/-- The member stands at the place of the field. -/
structure Represents (field : Field) (spec : MemberSpec) : Prop where
  name : spec.name = field.name
  required : isRequired false field.attributes = .ok spec.required
  /-- A private field with accessors is a property. -/
  property : spec.kind = .property ↔ field.isPublic = false ∧ IsAccessed items owner field.name
  /-- A field can be read and set if it is public, whatever accessors there are. -/
  field : spec.kind = .field → spec.readable = field.isPublic ∧ spec.settable = field.isPublic

/-- The members are those of the fields and then the properties that are no field's. -/
structure Merges (fields : List Field) (specs : List MemberSpec) : Prop where
  inOrder : ∃ ofFields properties, specs = ofFields ++ properties ∧
    List.Forall₂ (Represents items owner) fields ofFields ∧
      properties.map (·.name) = (accessedNames items owner).filter (· ∉ fields.map (·.name)) ∧
        ∀ spec ∈ properties, spec.kind = .property ∧ spec.required = false
  distinct : (specs.map (·.name)).Nodup
  accessed : ∀ spec ∈ specs, spec.kind = .property → FollowsAccessors items owner spec

end

variable {names : TypeNames} {items : List Item} {owner : String}

/-- A member is left as it is, or a property stands in for it if it cannot be reached. -/
theorem standIn_cases (properties : List Property) (member : MemberSpec) :
    (standIn properties member = member ∧ (member.name ∈ properties.map (·.name) → member.readable = true)) ∨
      ∃ property ∈ properties, property.name = member.name ∧ member.readable = false ∧
        standIn properties member = property.member member.required := by
  unfold standIn
  split
  · next property found =>
      have present := List.mem_of_find?_eq_some found
      have same := List.find?_some found
      cases readable : member.readable with
      | true => exact .inl ⟨rfl, fun _ => rfl⟩
      | false => exact .inr ⟨property, present, beq_iff_eq.mp same, rfl, rfl⟩
  · next none =>
      refine .inl ⟨rfl, fun present => ?_⟩
      obtain ⟨property, isProperty, same⟩ := List.mem_map.mp present
      exact absurd (beq_iff_eq.mpr same) (List.find?_eq_none.mp none property isProperty)

theorem accessorsOf_follows {property : Property} (present : property ∈ (accessorsOf names items owner).properties)
    (required : Bool) : FollowsAccessors items owner (property.member required) :=
  ⟨(accessorsOf_isAccessed present).1, (accessorsOf_isAccessed present).2⟩

theorem accessorsOf_isAccessed_iff {name : String} :
    name ∈ (accessorsOf names items owner).properties.map (·.name) ↔ IsAccessed items owner name := by
  rw [accessorsOf_names, mem_accessedNames]
  rfl

theorem standIn_represents {base : Option TypeId} {field : Field} {required : Bool}
    (isRead : isRequired false field.attributes = .ok required) :
    Represents items owner field
      (standIn (accessorsOf names items owner).properties (fieldMember names base field required)) := by
  obtain ⟨same, hidden⟩ | ⟨property, present, named, isPrivate, same⟩ :=
    standIn_cases (accessorsOf names items owner).properties (fieldMember names base field required)
  · rw [same]
    refine ⟨rfl, isRead, ⟨nofun, ?_⟩, fun _ => ⟨rfl, rfl⟩⟩
    rintro ⟨isPrivate, accessed⟩
    have isPublic : field.isPublic = true := hidden (accessorsOf_isAccessed_iff.mpr accessed)
    rw [isPublic] at isPrivate
    cases isPrivate
  · rw [same]
    refine ⟨named, isRead, ⟨fun _ => ⟨isPrivate, ?_⟩, fun _ => rfl⟩, nofun⟩
    exact accessorsOf_isAccessed_iff.mp (List.mem_map.mpr ⟨property, present, named⟩)

/-- The members of a definition are what the fields become, and then the properties that are no field's. -/
theorem structDefinition_members {fields : List Field} {body : StructDefinition}
    (made : structDefinition names (accessorsOf names items owner) fields = .ok body)
    (distinct : (body.members.map (·.name)).Nodup) : ∃ members,
      fieldMembers names (accessorsOf names items owner).base fields = .ok members ∧
        (members.map (·.name)).Nodup ∧
          body.members = members.map (standIn (accessorsOf names items owner).properties) ++
            (furtherProperties (accessorsOf names items owner).properties members).map (·.member false) := by
  obtain ⟨members, membersMade, made⟩ := (bind_ok _ _ _).mp made
  cases made
  have differ : ((accessorsOf names items owner).properties.map (·.name)).Nodup :=
    accessorsOf_names names items owner ▸ eraseDups_nodup _
  have fieldsDistinct := distinct.sublist (addProperties_keepNames _ members).sublist
  exact ⟨members, membersMade, fieldsDistinct, addProperties_eq differ fieldsDistinct⟩

theorem structDefinition_merges {fields : List Field} {body : StructDefinition}
    (made : structDefinition names (accessorsOf names items owner) fields = .ok body)
    (distinct : (body.members.map (·.name)).Nodup) : Merges items owner fields body.members := by
  obtain ⟨members, membersMade, _, merged⟩ := structDefinition_members made distinct
  have inOrder := fieldMembers_read membersMade
  have sameNames : members.map (·.name) = fields.map (·.name) := by
    refine forall₂_map_eq inOrder fun field spec => ?_
    rintro ⟨required, _, rfl⟩
    rfl
  refine ⟨⟨_, _, merged, ?fields, ?further, ?fresh⟩, distinct, ?accessed⟩
  case fields =>
    rw [List.forall₂_map_right_iff]
    refine inOrder.imp fun field spec => ?_
    rintro ⟨required, isRead, rfl⟩
    exact standIn_represents isRead
  case further =>
    rw [List.map_map, furtherProperties, sameNames, ← accessorsOf_names names, List.filter_map]
    rfl
  case fresh => exact List.forall_mem_map.mpr fun _ _ => ⟨rfl, rfl⟩
  case accessed =>
    rw [merged]
    refine List.forall_mem_append.mpr ⟨List.forall_mem_map.mpr fun member present => ?_, ?_⟩
    · obtain ⟨same, _⟩ | ⟨property, isProperty, _, _, same⟩ :=
        standIn_cases (accessorsOf names items owner).properties member
      · obtain ⟨field, _, required, _, rfl⟩ := forall₂_right inOrder member present
        rw [same]
        nofun
      · rw [same]
        exact fun _ => accessorsOf_follows isProperty _
    · refine List.forall_mem_map.mpr fun property present _ => ?_
      exact accessorsOf_follows (List.mem_of_mem_filter present) _

/-- A struct literal is offered if there is no constructor to call and every field can be reached. -/
theorem constructorsOf_literal {fields : List Field} :
    .literal ∈ constructorsOf (accessorsOf names items owner) fields ↔
      (¬∃ name, HasConstructor items owner name) ∧ ∀ field ∈ fields, field.isPublic = true := by
  rw [← accessorsOf_constructs names, constructorsOf, ← List.all_eq_true]
  split
  · next declared =>
      rw [Bool.not_eq_true', Bool.eq_false_iff, ne_eq, List.isEmpty_iff] at declared
      exact ⟨fun isLiteral => absurd isLiteral accessorsOf_noLiteral,
        fun noneDeclared => absurd noneDeclared.1 declared⟩
  · next noneDeclared =>
      have isEmpty : (accessorsOf names items owner).constructors = [] := by simpa using noneDeclared
      split
      · next allPublic => exact ⟨fun _ => ⟨isEmpty, allPublic⟩, fun _ => List.mem_singleton_self _⟩
      · next hidden => exact ⟨nofun, fun allPublic => absurd allPublic.2 hidden⟩

/-- The name stands for a struct type of the schema. -/
structure HoldsStruct (host : Host) (owner : String) (id : TypeId) (type : StructType) : Prop where
  named : host.names owner = some id
  found : (host.schema.get? id).bind (·.struct?) = some type

/-- The struct of a declaration has the definition that its fields and its accessors make. -/
structure IsDefined (items : List Item) (host : Host) (draft : SchemaDraft) (owner : String) (fields : List Field)
    (id : TypeId) (body : StructDefinition) : Prop where
  named : host.names owner = some id
  made : structDefinition host.names (accessorsOf host.names items owner) fields = .ok body
  defined : draft.Defines id (.struct body)
  lent : ∀ member, (id, member) ∈ host.lentProperties ↔
    ∃ property ∈ (accessorsOf host.names items owner).properties, property.lent = true ∧ property.name = member

/-- Every declared struct is defined in the draft of the schema, and it is structs that lend properties. -/
structure IsDrafted (items : List Item) (host : Host) (draft : SchemaDraft) : Prop where
  built : draft.build = .ok host.schema
  structs : ∀ owner fields, DeclaresStruct items owner fields →
    ∃ id body, IsDefined items host draft owner fields id body
  declared : ∀ id body, draft.Defines id (.struct body) →
    ∃ owner fields, DeclaresStruct items owner fields ∧ host.names owner = some id
  lends : ∀ id member, (id, member) ∈ host.lentProperties →
    ∃ owner fields, DeclaresStruct items owner fields ∧ host.names owner = some id

theorem ofItems_isDrafted {items : List Item} {host : Host} (read : ofItems items = .ok host) :
    ∃ draft, IsDrafted items host draft := by
  obtain ⟨entries, built, distinct, inOrder, lentProperties⟩ := ofItems_definitions read
  have defines := collectingSteps_defines ((SchemaDraft.build_ok _ _).mp built).1
  refine ⟨_, built, ?structs, ?declared, ?lends⟩
  case structs =>
    intro owner fields declared
    obtain ⟨one, isEntry, isNamed, made⟩ := forall₂_left inOrder _ (mem_declarations.mpr declared)
    obtain ⟨body, bodyMade, made⟩ := (bind_ok _ _ _).mp made
    obtain ⟨isStruct, isLent⟩ := Prod.mk.inj (Except.ok.inj made)
    refine ⟨one.id, body, isNamed, bodyMade, (defines _ _).mpr ⟨one, isEntry, rfl, isStruct.symm⟩, fun member => ?_⟩
    rw [lentProperties, List.mem_flatMap]
    constructor
    · rintro ⟨other, isOther, lends⟩
      obtain ⟨name, isProperty, same⟩ := List.mem_map.mp lends
      obtain ⟨sameId, rfl⟩ := Prod.mk.inj same
      obtain rfl := List.inj_on_of_nodup_map distinct isOther isEntry sameId
      rw [← isLent] at isProperty
      obtain ⟨property, present, rfl⟩ := List.mem_map.mp isProperty
      obtain ⟨isProperty, isLent⟩ := List.mem_filter.mp present
      exact ⟨property, isProperty, isLent, rfl⟩
    · rintro ⟨property, isProperty, lends, rfl⟩
      refine ⟨one, isEntry, List.mem_map.mpr ⟨property.name, ?_, rfl⟩⟩
      rw [← isLent]
      exact List.mem_map.mpr ⟨property, List.mem_filter.mpr ⟨isProperty, lends⟩, rfl⟩
  case declared =>
    intro id body defined
    obtain ⟨one, isEntry, rfl, isStruct⟩ := (defines _ _).mp defined
    obtain ⟨declaration, isDeclared, isNamed, made⟩ := forall₂_right inOrder one isEntry
    cases declaration with
    | struct owner fields => exact ⟨owner, fields, mem_declarations.mp isDeclared, isNamed⟩
    | «enum» =>
        obtain ⟨isEnum, _⟩ := Prod.mk.inj (Except.ok.inj made)
        rw [isStruct] at isEnum
        cases isEnum
  case lends =>
    intro id member isLent
    rw [lentProperties] at isLent
    obtain ⟨one, isEntry, lends⟩ := List.mem_flatMap.mp isLent
    obtain ⟨name, isProperty, same⟩ := List.mem_map.mp lends
    cases same
    obtain ⟨declaration, isDeclared, isNamed, made⟩ := forall₂_right inOrder one isEntry
    cases declaration with
    | struct owner fields => exact ⟨owner, fields, mem_declarations.mp isDeclared, isNamed⟩
    | «enum» =>
        obtain ⟨_, noneLent⟩ := Prod.mk.inj (Except.ok.inj made)
        rw [← noneLent] at isProperty
        cases isProperty

namespace IsDefined

variable {host : Host} {draft : SchemaDraft} {fields : List Field} {id : TypeId} {body : StructDefinition}
  (isDefined : IsDefined items host draft owner fields id body) (built : draft.build = .ok host.schema)

include isDefined built

theorem found : ∃ bases, BaseDefinitions draft.Defines body.base bases ∧ host.schema.get? id =
    some ⟨id, owner, .struct ⟨body.base, SchemaDraft.layOut id body.members bases, body.constructors⟩⟩ := by
  obtain ⟨descriptor, found, isOwner⟩ := names_found built isDefined.named
  obtain ⟨ident, _, describes⟩ := (SchemaDraft.build_describes built id descriptor).mp found
  cases describes with
  | «enum» variants other => cases SchemaDraft.defines_functional _ _ _ _ isDefined.defined other
  | struct definition bases other chain =>
      cases SchemaDraft.defines_functional _ _ _ _ isDefined.defined other
      cases isOwner
      exact ⟨bases, chain, found⟩

theorem holds : ∃ type, host.HoldsStruct owner id type ∧ type.ownSpecs = body.members ∧
    type.constructors = body.constructors := by
  obtain ⟨bases, _, found⟩ := isDefined.found built
  refine ⟨⟨body.base, SchemaDraft.layOut id body.members bases, body.constructors⟩, ⟨isDefined.named, ?_⟩,
    SchemaDraft.layOut_ownSpecs id body.members bases, rfl⟩
  rw [found]
  rfl

/-- The names of all members of the struct, those of its bases included, are different. -/
theorem distinct {bases : List StructDefinition} (chain : BaseDefinitions draft.Defines body.base bases) :
    ((SchemaDraft.layOut id body.members bases).map (·.name)).Nodup := by
  obtain ⟨others, otherChain, found⟩ := isDefined.found built
  obtain rfl := chain.unique draft.defines_functional otherChain
  exact (SchemaDraft.build_struct _ _ built id _ _ found rfl).distinct

theorem own_distinct : (body.members.map (·.name)).Nodup := by
  obtain ⟨bases, chain, _⟩ := isDefined.found built
  rw [← SchemaDraft.layOut_ownSpecs id body.members bases, List.map_map]
  exact (isDefined.distinct built chain).sublist (List.filter_sublist.map _)

end IsDefined

/-- The structs along a base chain have the definitions along it. -/
theorem baseChain_defined {host : Host} {draft : SchemaDraft} (built : draft.build = .ok host.schema)
    {start : Option TypeId} {bases : List StructDefinition} (chain : BaseDefinitions draft.Defines start bases)
    (budget : Nat) :
    ∀ one ∈ host.baseChain budget start, ∃ definition ∈ bases, draft.Defines one (.struct definition) := by
  induction budget generalizing start bases with
  | zero => nofun
  | succ budget inductionHypothesis =>
      cases chain with
      | nil => nofun
      | cons base definition further defined chain =>
          refine List.forall_mem_cons.mpr ⟨⟨definition, List.mem_cons_self, defined⟩, fun one present => ?_⟩
          obtain ⟨other, inFurther, isOther⟩ : ∃ other ∈ further, draft.Defines one (.struct other) := by
            cases found : host.schema.get? base with
            | none =>
                rw [found] at present
                cases budget <;> cases present
            | some descriptor =>
                obtain ⟨ident, _, describes⟩ := (SchemaDraft.build_describes built base descriptor).mp found
                rw [found] at present
                cases describes with
                | «enum» variants other => cases draft.defines_functional _ _ _ defined other
                | struct same bases other _ =>
                    cases draft.defines_functional _ _ _ defined other
                    exact inductionHypothesis chain one present
          exact ⟨other, List.mem_cons_of_mem _ inFurther, isOther⟩

/-- Each property keeps its name among the members. -/
theorem property_mem_members {names : TypeNames} {fields : List Field} {body : StructDefinition}
    (made : structDefinition names (accessorsOf names items owner) fields = .ok body)
    (distinct : (body.members.map (·.name)).Nodup) {property : Property}
    (present : property ∈ (accessorsOf names items owner).properties) : property.name ∈ body.members.map (·.name) := by
  obtain ⟨members, _, _, merged⟩ := structDefinition_members made distinct
  rw [merged, List.map_append, List.mem_append, standIn_names]
  by_cases isField : property.name ∈ members.map (·.name)
  · exact .inl isField
  · refine .inr (List.mem_map.mpr ⟨property.member false, List.mem_map_of_mem (List.mem_filter.mpr ⟨present, ?_⟩), rfl⟩)
    simpa using isField

/-- No name of an own member is that of a member of a base. -/
theorem IsDefined.own_notInherited {host : Host} {draft : SchemaDraft} {fields : List Field} {id : TypeId}
    {body : StructDefinition} (isDefined : IsDefined items host draft owner fields id body)
    (built : draft.build = .ok host.schema) {bases : List StructDefinition}
    (chain : BaseDefinitions draft.Defines body.base bases) {name : String} (own : name ∈ body.members.map (·.name)) :
    ∀ definition ∈ bases, name ∉ definition.members.map (·.name) := by
  intro definition isBase inherited
  have distinct := isDefined.distinct built chain
  have names := congrArg (List.map fun spec => spec.1.name) (SchemaDraft.layOut_specs id body.members bases)
  rw [List.map_append, List.map_map, List.map_map, List.map_flatMap] at names
  rw [show (SchemaDraft.layOut id body.members bases).map (·.name) = _ from names] at distinct
  refine (List.nodup_append.mp distinct).2.2 name ?_ name own rfl
  refine List.mem_flatMap.mpr ⟨definition, List.mem_reverse.mpr isBase, ?_⟩
  rw [List.map_map]
  exact inherited

/-- Whether an own member is lent depends on the getters of the struct alone. -/
theorem IsDefined.isLent_own {host : Host} {draft : SchemaDraft} {fields : List Field} {id : TypeId}
    {body : StructDefinition} (isDefined : IsDefined items host draft owner fields id body)
    (drafted : IsDrafted items host draft) {name : String} (own : name ∈ body.members.map (·.name)) :
    host.isLent id name = true ↔
      ∃ property ∈ (accessorsOf host.names items owner).properties, property.lent = true ∧ property.name = name := by
  rw [← isDefined.lent, isLent, List.any_eq_true]
  obtain ⟨bases, chain, found⟩ := isDefined.found drafted.built
  constructor
  · rintro ⟨one, inChain, lends⟩
    have lends := List.contains_iff_mem.mp lends
    obtain rfl | inBases := List.mem_cons.mp inChain
    · exact lends
    · -- A base that lends it has a member of the name, which the struct would inherit next to its own.
      rw [found] at inBases
      obtain ⟨definition, isBase, defined⟩ := baseChain_defined drafted.built chain _ one inBases
      obtain ⟨holder, others, declared, isNamed⟩ := drafted.lends one name lends
      obtain ⟨other, holderBody, holderDefined⟩ := drafted.structs holder others declared
      obtain rfl := Option.some.inj (isNamed.symm.trans holderDefined.named)
      cases draft.defines_functional _ _ _ defined holderDefined.defined
      obtain ⟨property, present, _, rfl⟩ := (holderDefined.lent name).mp lends
      have inherited := property_mem_members holderDefined.made (holderDefined.own_distinct drafted.built) present
      exact absurd inherited (isDefined.own_notInherited drafted.built chain own _ isBase)
  · intro lends
    exact ⟨id, List.mem_cons_self, List.contains_iff_mem.mpr lends⟩

theorem IsDefined.merges {host : Host} {draft : SchemaDraft} {fields : List Field} {id : TypeId}
    {body : StructDefinition} (isDefined : IsDefined items host draft owner fields id body)
    (built : draft.build = .ok host.schema) : Merges items owner fields body.members :=
  structDefinition_merges isDefined.made (isDefined.own_distinct built)

theorem HoldsStruct.unique {host : Host} {id otherId : TypeId} {type otherType : StructType}
    (holds : host.HoldsStruct owner id type) (other : host.HoldsStruct owner otherId otherType) :
    id = otherId ∧ type = otherType := by
  obtain rfl := Option.some.inj (holds.named.symm.trans other.named)
  exact ⟨rfl, Option.some.inj (holds.found.symm.trans other.found)⟩

theorem HoldsStruct.merges {host : Host} (read : ofItems items = .ok host) {fields : List Field}
    (declared : DeclaresStruct items owner fields) {id : TypeId} {type : StructType}
    (holds : host.HoldsStruct owner id type) : Merges items owner fields type.ownSpecs := by
  obtain ⟨draft, drafted⟩ := ofItems_isDrafted read
  obtain ⟨found, body, isDefined⟩ := drafted.structs owner fields declared
  obtain ⟨defined, isHeld, own, _⟩ := isDefined.holds drafted.built
  rw [(holds.unique isHeld).2, own]
  exact isDefined.merges drafted.built

/-- In a host the own members of each struct with named fields merge its fields and its accessors, and a struct
literal is offered where nothing stands against it. -/
theorem ofItems_merges {items : List Item} {host : Host} (read : ofItems items = .ok host) {owner : String}
    {fields : List Field} (declared : DeclaresStruct items owner fields) : ∃ id type, host.HoldsStruct owner id type ∧
      Merges items owner fields type.ownSpecs ∧ (.literal ∈ type.constructors ↔
        (¬∃ name, HasConstructor items owner name) ∧ ∀ field ∈ fields, field.isPublic = true) := by
  obtain ⟨draft, drafted⟩ := ofItems_isDrafted read
  obtain ⟨id, body, isDefined⟩ := drafted.structs owner fields declared
  obtain ⟨type, holds, own, constructors⟩ := isDefined.holds drafted.built
  refine ⟨id, type, holds, ?_, ?_⟩
  · rw [own]
    exact isDefined.merges drafted.built
  · rw [constructors]
    obtain ⟨members, _, same⟩ := (bind_ok _ _ _).mp isDefined.made
    cases same
    exact constructorsOf_literal

/-- The fields of the first struct declaration of a name. -/
def declaredFields? (items : List Item) (owner : String) : Option (List Field) :=
  (items.filterMap Declaration.ofItem?).findSome? fun
    | .struct name fields => if name == owner then some fields else none
    | .enum _ _ => none

theorem declaredFields?_some {items : List Item} {owner : String} {fields : List Field}
    (found : declaredFields? items owner = some fields) : DeclaresStruct items owner fields := by
  obtain ⟨declaration, isDeclared, isFound⟩ := List.exists_of_findSome?_eq_some found
  split at isFound
  · split at isFound
    · next same =>
        cases isFound
        exact beq_iff_eq.mp same ▸ mem_declarations.mp isDeclared
    · cases isFound
  · cases isFound

/-- A member apart from its type: its name and kind, and whether it can be read and set and is required. -/
abbrev MemberProfile := String × MemberKind × Bool × Bool × Bool

def memberProfile (spec : MemberSpec) : MemberProfile :=
  (spec.name, spec.kind, spec.readable, spec.settable, spec.required)

/-- The items of a source text make a host, in which the struct has the given own members. -/
structure ReadsStruct (text owner : String) (members : List MemberProfile) (file : SourceFile) (host : Host)
    (fields : List Field) : Prop where
  parsed : SourceFile.ofText text = .ok file
  read : ofItems (file.items.map (·.item)) = .ok host
  declared : DeclaresStruct (file.items.map (·.item)) owner fields
  laidOut : ∀ id type, host.HoldsStruct owner id type → type.ownSpecs.map memberProfile = members

/-- Whether a source text can be read with these own members of a struct. -/
def readsStruct (text owner : String) (members : List MemberProfile) : Bool :=
  passes (fun file => passes (fun host =>
    decide ((declaredFields? (file.items.map (·.item)) owner).isSome = true ∧
      (((host.names owner).bind host.schema.get?).bind (·.struct?)).map (·.ownSpecs.map memberProfile) = some members))
    (ofItems (file.items.map (·.item)))) (SourceFile.ofText text)

theorem readsStruct_exists {text owner : String} {members : List MemberProfile}
    (found : readsStruct text owner members = true) :
    ∃ file host fields, ReadsStruct text owner members file host fields := by
  obtain ⟨file, parsed, found⟩ := passes_iff.mp found
  obtain ⟨host, read, found⟩ := passes_iff.mp found
  obtain ⟨isDeclared, areLaidOut⟩ := of_decide_eq_true found
  obtain ⟨fields, areFields⟩ := Option.isSome_iff_exists.mp isDeclared
  refine ⟨file, host, fields, parsed, read, declaredFields?_some areFields, fun id type holds => ?_⟩
  rw [holds.named, Option.bind_some, holds.found] at areLaidOut
  exact Option.some.inj areLaidOut

namespace ReadsStruct

variable {text owner : String} {members : List MemberProfile} {file : SourceFile} {host : Host} {fields : List Field}
  (reads : ReadsStruct text owner members file host fields) {id : TypeId} {type : StructType}
  (holds : host.HoldsStruct owner id type)
include reads holds

theorem listed {spec : MemberSpec} (isSpec : spec ∈ type.ownSpecs) : memberProfile spec ∈ members := by
  rw [← reads.laidOut id type holds]
  exact List.mem_map_of_mem isSpec

/-- A field whose name only properties have is private. -/
theorem hidden {name : String} (properties : ∀ member ∈ members, member.1 = name → member.2.1 = .property) :
    ∀ field ∈ fields, field.name = name → field.isPublic = false := by
  intro field present named
  obtain ⟨ofFields, _, split, represents, _⟩ := (holds.merges reads.read reads.declared).inOrder
  obtain ⟨spec, isSpec, represents⟩ := forall₂_left represents field present
  have listed := reads.listed holds (split ▸ List.mem_append_left _ isSpec)
  exact (represents.property.mp (properties _ listed (represents.name.trans named))).1

/-- A property of the struct is accessed as far as it can be read and set. -/
theorem follows {name : String} {readable settable required : Bool}
    (isMember : (name, .property, readable, settable, required) ∈ members) :
    ∃ spec ∈ type.ownSpecs, spec.name = name ∧
      (readable = true ↔ HasGetter (file.items.map (·.item)) owner name) ∧
        (settable = true ↔ HasSetter (file.items.map (·.item)) owner ("set_" ++ name)) := by
  rw [← reads.laidOut id type holds] at isMember
  obtain ⟨spec, isSpec, same⟩ := List.mem_map.mp isMember
  simp only [memberProfile, Prod.mk.injEq] at same
  obtain ⟨rfl, kind, rfl, rfl, _⟩ := same
  have follows := (holds.merges reads.read reads.declared).accessed spec isSpec kind
  exact ⟨spec, isSpec, rfl, follows.readable, follows.settable⟩

end ReadsStruct

/-- An account whose accessors stand in two `impl` blocks. -/
def accountText : String :=
  "struct Account \x7b pub id: u64, #[mapgen(required)] name: String \x7d " ++
    "impl Account \x7b pub fn set_balance(&mut self, balance: i64) \x7b\x7d \x7d " ++
    "impl Account \x7b pub fn balance(&self) -> i64 \x7b\x7d pub fn name(&self) -> &str \x7b\x7d \x7d"

/-- The getter stands in for the private field, and the balance follows the fields. -/
def accountMembers : List MemberProfile :=
  [("id", .field, true, true, false), ("name", .property, true, false, true), ("balance", .property, true, true, false)]

theorem account_reads : ∃ file host fields, ReadsStruct accountText "Account" accountMembers file host fields := by
  have chars : CharsOf accountText _ := .append (.append (.literal _) _) _
  refine readsStruct_exists ?_
  rw [readsStruct, SourceFile.ofText_chars chars]
  decide +kernel

theorem ofItems_merges_account : ∃ file host fields, ReadsStruct accountText "Account" accountMembers file host fields ∧
    ∃ id type, host.HoldsStruct "Account" id type ∧
      Merges (file.items.map (·.item)) "Account" fields type.ownSpecs ∧
        type.ownSpecs.map memberProfile = accountMembers := by
  obtain ⟨file, host, fields, reads⟩ := account_reads
  obtain ⟨id, type, holds, merges, _⟩ := ofItems_merges reads.read reads.declared
  exact ⟨file, host, fields, reads, id, type, holds, merges, reads.laidOut id type holds⟩

end Host

end ObjectMapping
