/-
This file proves that the text which is displayed for a type can be read back. It is read as a type that stands for the
one displayed, however deep options and collections are nested, so that no other type is displayed alike.
-/

import ObjectMapping.Host.Type
import ObjectMapping.Proofs.Host.Collected
import ObjectMapping.Proofs.Source.File
import ObjectMapping.Proofs.Source.PlainType

namespace ObjectMapping

open Source

theorem Scalar.ident_isPlainWord (value : Scalar) : IsPlainWord value.ident := by
  cases value <;> exact ⟨rfl, by decide⟩

theorem Scalar.ofIdent?_eq_none {ident : String} (noScalar : ∀ value : Scalar, value.ident ≠ ident) :
    ofIdent? ident = none :=
  List.find?_eq_none.mpr fun value _ isNamed => noScalar value (beq_iff_eq.mp isNamed)

namespace CollectionKind

variable (kind : CollectionKind)

theorem ident_isPlainWord : IsPlainWord kind.ident := by
  cases kind <;> exact ⟨rfl, by decide⟩

theorem ident_notOption : kind.ident ≠ "Option" := by
  cases kind <;> decide

theorem ofGeneric?_ident : ofGeneric? kind.ident = if kind.isSlice then none else some kind := by
  cases kind <;> rfl

theorem ofSliceOwner?_ident : ofSliceOwner? kind.ident = if kind.isSlice then some kind else none := by
  cases kind <;> rfl

end CollectionKind

namespace TypeRef

/-- The plain type that is displayed. -/
def shape (schema : Schema) : TypeRef → PlainType
  | .scalar value => .named value.ident
  | .named id => .named (schema.identOf id)
  | .foreign path => .named path
  | .nullable inner => .applied "Option" (inner.shape schema)
  | .collection kind element =>
      .applied kind.ident (if kind.isSlice then .slice (element.shape schema) else element.shape schema)

theorem display_shape (schema : Schema) (type : TypeRef) : schema.display type = (type.shape schema).text := by
  induction type with
  | scalar | named | foreign => rfl
  | nullable inner inductionHypothesis =>
      rw [Schema.display, inductionHypothesis]
      rfl
  | collection kind element inductionHypothesis =>
      rw [Schema.display, inductionHypothesis, CollectionKind.around, shape]
      split
      · rw [PlainType.text, PlainType.text]
        generalize (element.shape schema).text = inner
        change kind.ident ++ ("<" ++ "[") ++ inner ++ ("]" ++ ">") = _
        simp only [String.append_assoc]
      · rfl

/-- The type is built from scalars and from declared types, none of which has the name of a scalar. -/
inductive IsBuilt (schema : Schema) : TypeRef → Prop
  | scalar (value : Scalar) : IsBuilt schema (.scalar value)
  | named (id : TypeId) (descriptor : TypeDescriptor) (declared : schema.get? id = some descriptor)
      (noScalar : ∀ value : Scalar, value.ident ≠ descriptor.ident) : IsBuilt schema (.named id)
  | nullable {inner : TypeRef} (built : IsBuilt schema inner) : IsBuilt schema (.nullable inner)
  | collection (kind : CollectionKind) {element : TypeRef} (built : IsBuilt schema element) :
      IsBuilt schema (.collection kind element)

variable {schema : Schema} {type : TypeRef}

theorem IsBuilt.hasNames (built : type.IsBuilt schema)
    (named : ∀ id descriptor, schema.get? id = some descriptor → IsPlainWord descriptor.ident) :
    (type.shape schema).HasNames := by
  induction built with
  | scalar value => exact value.ident_isPlainWord
  | named id descriptor declared =>
      rw [shape, Schema.identOf, declared]
      exact named id descriptor declared
  | nullable _ inductionHypothesis => exact ⟨⟨rfl, by decide⟩, inductionHypothesis⟩
  | collection kind _ inductionHypothesis =>
      refine ⟨kind.ident_isPlainWord, ?_⟩
      split
      · exact inductionHypothesis
      · exact inductionHypothesis

/-- What spells the type that is displayed stands for the type. -/
theorem IsBuilt.ofWritten (built : type.IsBuilt schema) {names : TypeNames}
    (known : ∀ id descriptor, schema.get? id = some descriptor → names descriptor.ident = some id)
    {written : WrittenType} (spells : written.Spells (type.shape schema)) : TypeRef.ofWritten names written = type := by
  induction built generalizing written with
  | scalar value =>
      cases spells
      simp [TypeRef.ofWritten, ofHead?, Scalar.ofIdentIdent]
  | named id descriptor declared noScalar =>
      rw [shape, Schema.identOf, declared] at spells
      cases spells
      simp [TypeRef.ofWritten, ofHead?, Scalar.ofIdent?_eq_none noScalar, known id descriptor declared]
  | nullable _ inductionHypothesis =>
      have noOwner : CollectionKind.ofSliceOwner? "Option" = none := rfl
      cases spells with
      | applied _ _ inner => simp [TypeRef.ofWritten, noOwner, inductionHypothesis inner]
  | collection kind _ inductionHypothesis =>
      rw [shape] at spells
      cases spells with
      | applied _ _ inner =>
          by_cases isSlice : kind.isSlice
          · rw [if_pos isSlice] at inner
            cases inner with
            | slice _ element =>
                simp [TypeRef.ofWritten, kind.ident_notOption, kind.ofGeneric?_ident, kind.ofSliceOwner?_ident,
                  isSlice, inductionHypothesis element]
          · rw [if_neg isSlice] at inner
            simp [TypeRef.ofWritten, kind.ident_notOption, kind.ofGeneric?_ident, kind.ofSliceOwner?_ident, isSlice,
              inductionHypothesis inner]

end TypeRef

namespace Host

theorem Declaration.ofItem?_named {item : Item} (named : item.IsNamed) {declaration : Declaration}
    (declares : ofItem? item = some declaration) : IsPlainWord declaration.name := by
  cases item with
  | struct item =>
      rw [ofItem?] at declares
      split at declares
      · cases declares
      · obtain ⟨fields, _, rfl⟩ := Option.map_eq_some_iff.mp declares
        exact named.1
  | «enum» item =>
      rw [ofItem?] at declares
      split at declares
      · cases declares
      · cases declares
        exact named.1
  | impl | trait | other => cases declares

section

variable {items : List Item} {host : Host} (read : ofItems items = .ok host)
include read

/-- The types of the schema have the names that items have. -/
theorem ofItems_named (named : ∀ item ∈ items, item.IsNamed) {id : TypeId} {descriptor : TypeDescriptor}
    (found : host.schema.get? id = some descriptor) : IsPlainWord descriptor.ident := by
  obtain ⟨entries, built, _⟩ := ofItems_ok read
  have isName : descriptor.ident ∈ host.schema.types.map (·.ident) :=
    List.mem_map_of_mem (List.mem_of_getElem? found)
  rw [SchemaDraft.build_names built, collectingSteps_names, List.mem_eraseDups] at isName
  obtain ⟨declaration, isDeclared, same⟩ := List.mem_map.mp isName
  obtain ⟨item, isItem, declares⟩ := List.mem_filterMap.mp isDeclared
  exact same ▸ Declaration.ofItem?_named (named item isItem) declares

/-- The name of a type of the schema stands for it. -/
theorem ofItems_known {id : TypeId} {descriptor : TypeDescriptor} (found : host.schema.get? id = some descriptor) :
    host.names descriptor.ident = some id := by
  obtain ⟨entries, built, _⟩ := ofItems_ok read
  have holds := SchemaDraft.ofSteps_holdsDeclared built
  obtain ⟨ident, declares⟩ := (holds.ids id).mp ⟨descriptor, found⟩
  obtain ⟨other, isNamed, rfl, otherFound, rfl⟩ := (holds.named ident id).mp declares
  obtain rfl := Option.some.inj (otherFound.symm.trans found)
  rw [names, isNamed]
  rfl

end

/-- In what is read of a source text, the text displayed for a type is read as one that stands for the type, so that
types that are displayed alike are the same. -/
theorem ofItems_displays {text : String} {file : SourceFile} (parsed : SourceFile.ofText text = .ok file)
    {items : List Item} (within : items ⊆ file.items.map (·.item)) {host : Host} (read : ofItems items = .ok host) :
    (∀ type : TypeRef, type.IsBuilt host.schema → ∃ written,
      WrittenType.ofText (host.schema.display type) = .ok written ∧ TypeRef.ofWritten host.names written = type) ∧
        ∀ first second : TypeRef, first.IsBuilt host.schema → second.IsBuilt host.schema →
          host.schema.display first = host.schema.display second → first = second := by
  have named : ∀ item ∈ items, item.IsNamed := by
    intro item present
    obtain ⟨found, isFound, rfl⟩ := List.mem_map.mp (within present)
    exact (SourceFile.ofText_isRead parsed found isFound).named
  have readsBack (type : TypeRef) (built : type.IsBuilt host.schema) : ∃ written,
      WrittenType.ofText (host.schema.display type) = .ok written ∧ TypeRef.ofWritten host.names written = type := by
    obtain ⟨written, isRead, spells⟩ := PlainType.ofText_text (built.hasNames fun _ _ => ofItems_named read named)
    rw [← TypeRef.display_shape] at isRead
    exact ⟨written, isRead, built.ofWritten (fun _ _ => ofItems_known read) spells⟩
  refine ⟨readsBack, fun first second firstBuilt secondBuilt same => ?_⟩
  obtain ⟨written, isRead, isFirst⟩ := readsBack first firstBuilt
  obtain ⟨other, otherRead, isSecond⟩ := readsBack second secondBuilt
  rw [same, otherRead] at isRead
  cases isRead
  exact isFirst.symm.trans isSecond

/-- The items of the text make a host, in which the name is that of a type. -/
def declaresType (text name : String) : Bool :=
  passes (fun file => passes (fun host => (host.names name).isSome) (ofItems (file.items.map (·.item))))
    (SourceFile.ofText text)

theorem declaresType_exists {text name : String} (found : declaresType text name = true) : ∃ file host id,
    SourceFile.ofText text = .ok file ∧ ofItems (file.items.map (·.item)) = .ok host ∧ host.names name = some id := by
  obtain ⟨file, parsed, found⟩ := passes_iff.mp found
  obtain ⟨host, read, found⟩ := passes_iff.mp found
  obtain ⟨id, isNamed⟩ := Option.isSome_iff_exists.mp found
  exact ⟨file, host, id, parsed, read, isNamed⟩

def orderText : String := "struct Order \x7b id: i64, lines: Vec<String> \x7d"

def orders (id : TypeId) : TypeRef := .nullable (.collection .vec (.collection .boxedSlice (.named id)))

/-- An option of a list of boxed slices of orders is displayed, read back, and displayed like no other type. -/
theorem ofItems_displays_orders : ∃ file host id, SourceFile.ofText orderText = .ok file ∧
    ofItems (file.items.map (·.item)) = .ok host ∧ host.names "Order" = some id ∧
      (orders id).IsBuilt host.schema ∧ host.schema.display (orders id) = "Option<Vec<Box<[Order]>>>" ∧
        (∃ written, WrittenType.ofText "Option<Vec<Box<[Order]>>>" = .ok written ∧
          TypeRef.ofWritten host.names written = orders id) ∧
          ∀ other : TypeRef, other.IsBuilt host.schema → host.schema.display other = "Option<Vec<Box<[Order]>>>" →
            other = orders id := by
  obtain ⟨file, host, id, parsed, read, isNamed⟩ :=
    declaresType_exists (by decide +kernel : declaresType orderText "Order" = true)
  obtain ⟨entries, collected, _⟩ := ofItems_ok read
  obtain ⟨descriptor, declared, isOrder⟩ := names_found collected isNamed
  have noScalar (value : Scalar) : value.ident ≠ descriptor.ident := by
    rw [isOrder]
    cases value <;> decide
  have built : (orders id).IsBuilt host.schema :=
    .nullable (.collection .vec (.collection .boxedSlice (.named id descriptor declared noScalar)))
  have displayed : host.schema.display (orders id) = "Option<Vec<Box<[Order]>>>" := by
    have identOf : host.schema.identOf id = "Order" := by rw [Schema.identOf, declared, ← isOrder]
    simp only [orders, Schema.display, identOf]
    rfl
  obtain ⟨readsBack, distinct⟩ := ofItems_displays parsed (List.Subset.refl _) read
  refine ⟨file, host, id, parsed, read, isNamed, built, displayed, displayed ▸ readsBack _ built, ?_⟩
  exact fun other otherBuilt same => distinct other _ otherBuilt built (same.trans displayed.symm)

end Host

end ObjectMapping
