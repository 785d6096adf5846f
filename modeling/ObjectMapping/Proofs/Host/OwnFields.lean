/-
This file follows the fields of a struct into its type. Where a struct literal is offered, the own fields of the
type are the declared ones in their order, and those of the type of its base are the ones that are left out.
-/

import ObjectMapping.Proofs.Host.Collected

namespace ObjectMapping

open Source

/-- A field that a struct declares itself. -/
def Member.IsOwnField (member : Member) : Prop := member.kind = .field ∧ member.inherited = false

instance (member : Member) : Decidable member.IsOwnField := inferInstanceAs (Decidable (_ ∧ _))

def StructType.ownFields (type : StructType) : List Member := type.members.filter (·.IsOwnField)

theorem StructType.mem_ownFields {type : StructType} {member : Member} :
    member ∈ type.ownFields ↔ member ∈ type.members ∧ member.IsOwnField := by
  rw [ownFields, List.mem_filter, decide_eq_true_iff]

/-- What is no own field is inherited or a property. -/
theorem Member.inherited_or_property {member : Member} (notOwn : ¬member.IsOwnField) :
    member.inherited = true ∨ member.kind = .property := by
  unfold IsOwnField at notOwn
  cases kind : member.kind with
  | property => exact .inr rfl
  | field => exact .inl (by simpa [kind] using notOwn)

/-- The own fields of a struct are those of its definition. -/
theorem SchemaDraft.layOut_ownFields (id : TypeId) (own : List MemberSpec) (bases : List StructDefinition) :
    ((layOut id own bases).filter (·.IsOwnField)).map (·.toMemberSpec) = own.filter (·.kind = .field) := by
  have isOwn (member : Member) : decide member.IsOwnField = (decide (member.kind = .field) && !member.inherited) := by
    rw [Bool.eq_iff_iff, decide_eq_true_iff]
    simp [Member.IsOwnField]
  have kept := congrArg (List.filter fun spec => decide (spec.1.kind = .field) && !spec.2) (layOut_specs id own bases)
  rw [List.filter_map, List.filter_append, List.filter_map] at kept
  have noneInherited : (bases.reverse.flatMap fun definition => definition.members.map (·, true)).filter
      (fun spec : MemberSpec × Bool => decide (spec.1.kind = .field) && !spec.2) = [] := by
    rw [List.filter_eq_nil_iff]
    intro spec present
    obtain ⟨definition, _, isMember⟩ := List.mem_flatMap.mp present
    obtain ⟨member, _, rfl⟩ := List.mem_map.mp isMember
    simp
  have specs := congrArg (List.map Prod.fst) kept
  rw [noneInherited, List.nil_append, List.map_map, List.map_map] at specs
  simpa [Function.comp_def, isOwn] using specs

namespace Host

/-- The field holds the base that the struct dereferences to: it is of the type of the base. -/
def HoldsBase (host : Host) (type : StructType) (field : Field) : Prop :=
  ∃ base, type.base = some base ∧ TypeRef.ofWritten host.names field.type = .named base

/-- A member is the field as it is declared, open to others and left out where it carries no data of its own. -/
structure IsDeclaredAs (host : Host) (type : StructType) (field : Field) (member : Member) : Prop where
  name : member.name = field.name
  settable : member.settable = true
  system : member.system = true ↔ isMarkerType field.type = true ∨ host.HoldsBase type field

namespace IsCollected

variable {items : List Item} {host : Host} {draft : SchemaDraft} (collected : IsCollected items host draft)
  {id : TypeId} {descriptor : TypeDescriptor} {type : StructType} (found : host.schema.get? id = some descriptor)
  (isStruct : descriptor.kind = .struct type)

include collected found isStruct

theorem ownFields (isLiteral : .literal ∈ type.constructors) {fields : List Field}
    (declared : DeclaresStruct items descriptor.ident fields) :
    List.Forall₂ (host.IsDeclaredAs type) fields type.ownFields := by
  obtain ⟨definition, bases, _, _, _, rfl, _, granted⟩ := collected.describes found isStruct
  have granted := granted fields declared
  have inOrder := granted.ownFields isLiteral
  rw [← SchemaDraft.layOut_ownFields id definition.members bases, List.forall₂_map_right_iff] at inOrder
  refine ((List.forall₂_and_left _ _).mpr ⟨granted.literal isLiteral, inOrder⟩).imp ?_
  rintro field member ⟨isPublic, required, same⟩
  have isSpec {α : Type} (part : MemberSpec → α) :
      part member.toMemberSpec = part (fieldMember host.names definition.base field required) := same ▸ rfl
  refine ⟨isSpec (·.name), (isSpec (·.settable)).trans isPublic, ?_⟩
  rw [isSpec (·.system)]
  simp [fieldMember, HoldsBase, Option.any_eq_true]

/-- A struct dereferences to the type of the fields that hold its base. -/
theorem holdsBase {field : Field} (holds : host.HoldsBase type field) :
    ∃ target, Dereferences items descriptor.ident target ∧ field.type.named? = some target := by
  obtain ⟨base, isBase, isType⟩ := holds
  obtain ⟨definition, bases, _, _, _, rfl, ⟨fields, declared⟩, granted⟩ := collected.describes found isStruct
  obtain ⟨target, dereferences, targetNamed⟩ := (granted fields declared).base base isBase
  obtain ⟨name, written, isNamed⟩ := TypeRef.ofWritten_named isType
  obtain ⟨other, otherFound, rfl⟩ := collected.named targetNamed
  obtain rfl := collected.name_eq isNamed otherFound
  exact ⟨_, dereferences, written⟩

end IsCollected

end Host

end ObjectMapping
