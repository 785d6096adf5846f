/-
This file proves that what others use of a declared type has names that can stand in generated code: they are names in
the source file. Only a field may have a blank for its name.
-/

import ObjectMapping.Proofs.Host.Addressable
import ObjectMapping.Proofs.Host.Displayed
import ObjectMapping.Proofs.Host.OwnFields
import ObjectMapping.Proofs.Resolution.Naming

namespace ObjectMapping

open Rendering Source

theorem id_hasLetters (id : TypeId) : HasLetters id.text := by
  have before : HasLetters "TypeId(" := by decide
  have behind : HasLetters ")" := by decide
  exact (before.append (Continues.decimal id.index).hasLetters).append behind

namespace Host

/-- The names of the types in a host, and those by which others use them, can stand as identifiers. -/
structure IsNamed (host : Host) : Prop where
  ident : ∀ id descriptor, host.schema.get? id = some descriptor → IsUsable descriptor.ident
  letters : ∀ id, HasLetters (host.schema.identOf id)
  structs : ∀ id descriptor type, host.schema.get? id = some descriptor → descriptor.kind = .struct type → type.IsNamed
  variants : ∀ id variants, host.schema.variants? id = some variants → ∀ variant ∈ variants, IsUsable variant

section

variable {items : List Item} (named : ∀ item ∈ items, item.IsNamed) {owner name : String}
include named

theorem DeclaresStruct.usable {fields : List Field} (declared : DeclaresStruct items owner fields) :
    ∀ field ∈ fields, IsUsable field.name := by
  intro field present
  obtain isBlank | isPlain := declaresStruct_named named declared field present
  · rw [isBlank]
    rfl
  · exact isUsable_of_isName isPlain.spelt

theorem Offers.usable {signature : Signature} (offers : Offers items owner signature) : IsUsable signature.name :=
  isUsable_of_isName (offers_named named offers).spelt

theorem LetsRead.usable {kind : MemberKind} (lets : LetsRead items owner name kind) : IsUsable name := by
  obtain ⟨holder, _, canRead⟩ := lets
  cases kind with
  | field =>
      obtain ⟨fields, declared, field, present, rfl, _⟩ := canRead
      exact declared.usable named field present
  | property =>
      obtain ⟨signature, offers, rfl, _⟩ := canRead
      exact offers.usable named

theorem LetsWrite.setter_usable (lets : LetsWrite items owner name .property) : IsUsable (setterName name) := by
  obtain ⟨holder, _, signature, offers, same, _⟩ := lets
  exact same ▸ offers.usable named

end

section

variable {items : List Item} {host : Host}

theorem IsCollected.isNamed {draft : SchemaDraft} (collected : IsCollected items host draft)
    (named : ∀ item ∈ items, item.IsNamed) {id : TypeId} {descriptor : TypeDescriptor} {type : StructType}
    (found : host.schema.get? id = some descriptor) (isStruct : descriptor.kind = .struct type) : type.IsNamed := by
  have keeps := collected.keepsTo found isStruct
  refine ⟨fun member present readable => (keeps.reads member present readable).usable named,
    fun member present settable isProperty => ?setters, fun isLiteral member present isField => ?fields,
    fun name parameters isFunction => ?functions⟩
  case setters =>
    have lets := keeps.writes member present settable
    rw [isProperty] at lets
    exact lets.setter_usable named
  case fields =>
    obtain ⟨fields, declared⟩ := keeps.declared
    have isOwn : member ∈ type.ownFields := by
      rw [StructType.mem_ownFields]
      exact ⟨present, by simpa [Scope.isLiteralField, Member.IsOwnField] using isField⟩
    obtain ⟨field, isDeclared, declaredAs⟩ :=
      forall₂_right (collected.ownFields found isStruct isLiteral declared) member isOwn
    exact declaredAs.name ▸ declared.usable named field isDeclared
  case functions =>
    obtain ⟨signature, offers, rfl, _⟩ := keeps.functions name parameters isFunction
    exact offers.usable named

/-- What items are read from a source file has names that can stand in generated code. -/
theorem ofItems_isNamed (read : ofItems items = .ok host) (isRead : ∀ item ∈ items, item.IsRead) : host.IsNamed := by
  have named : ∀ item ∈ items, item.IsNamed := fun item present => (isRead item present).named
  have ident (id : TypeId) (descriptor : TypeDescriptor) (found : host.schema.get? id = some descriptor) :
      IsUsable descriptor.ident := isUsable_of_isName (ofItems_named read named found).spelt
  refine ⟨ident, fun id => ?letters, fun id descriptor type found isStruct => ?structs,
    fun id variants isEnum => ?variants⟩
  case letters =>
    rw [Schema.identOf]
    split
    · next descriptor found => exact (ident id descriptor found).hasLetters
    · exact id_hasLetters id
  case structs =>
    obtain ⟨draft, collected⟩ := ofItems_isCollected (fun item present => (isRead item present).sound) read
    exact collected.isNamed named found isStruct
  case variants =>
    obtain ⟨item, isItem, _, _, _, rfl⟩ := (ofItems_declaresEnum read isEnum variants).mpr rfl
    intro name isName
    obtain ⟨variant, present, rfl⟩ := List.mem_map.mp isName
    exact isUsable_of_isName ((named _ isItem).2 variant present).spelt

end

end Host

end ObjectMapping
