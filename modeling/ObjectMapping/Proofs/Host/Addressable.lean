/-
This file proves how members are addressed. A getter and a setter that spell a name alike make one member, and what
a field or a getter names can be selected in a directive. Names that differ by a raw prefix are not spelt alike.
-/

import ObjectMapping.Proofs.Host.OwnMembers
import ObjectMapping.Proofs.Mapper.Selector
import ObjectMapping.Proofs.Source.File

namespace ObjectMapping

open Source

namespace Host

section

variable {items : List Item} {owner : String} {fields : List Field}

/-- A name with a getter and a setter is that of one member, with both, unless a public field has it. -/
theorem Merges.paired {specs : List MemberSpec} (merges : Merges items owner fields specs) {name : String}
    (getter : HasGetter items owner name) (setter : HasSetter items owner ("set_" ++ name))
    (hidden : ∀ field ∈ fields, field.name = name → field.isPublic = false) :
    (specs.map (·.name)).count name = 1 ∧
      ∀ spec ∈ specs, spec.name = name → spec.readable = true ∧ spec.settable = true := by
  obtain ⟨⟨ofFields, properties, rfl, represents, furtherNames, areFurther⟩, distinct, accessed⟩ := merges
  have isAccessed : IsAccessed items owner name := .inl getter
  have isProperty : ∃ spec ∈ ofFields ++ properties, spec.name = name ∧ spec.kind = .property := by
    by_cases isField : name ∈ fields.map (·.name)
    · obtain ⟨field, present, rfl⟩ := List.mem_map.mp isField
      obtain ⟨spec, isSpec, represents⟩ := forall₂_left represents field present
      refine ⟨spec, List.mem_append_left _ isSpec, represents.name, represents.property.mpr ⟨?_, isAccessed⟩⟩
      exact hidden field present rfl
    · have further : name ∈ properties.map (·.name) := by
        rw [furtherNames, List.mem_filter]
        exact ⟨mem_accessedNames.mpr isAccessed, by simpa using isField⟩
      obtain ⟨spec, isSpec, named⟩ := List.mem_map.mp further
      exact ⟨spec, List.mem_append_right _ isSpec, named, (areFurther spec isSpec).1⟩
  obtain ⟨spec, isSpec, named, kind⟩ := isProperty
  refine ⟨List.count_eq_one_of_mem distinct (List.mem_map.mpr ⟨spec, isSpec, named⟩), fun other isOther same => ?_⟩
  obtain rfl := List.inj_on_of_nodup_map distinct isOther isSpec (same.trans named.symm)
  have follows := accessed other isSpec kind
  exact ⟨follows.readable.mpr (named ▸ getter), follows.settable.mpr (named ▸ setter)⟩

theorem declaresStruct_named (named : ∀ item ∈ items, item.IsNamed) (declared : DeclaresStruct items owner fields) :
    ∀ field ∈ fields, field.name = "_" ∨ IsPlainWord field.name := by
  obtain ⟨item, isItem, _, _, isFields⟩ := declared
  exact (named _ isItem).2 fields isFields

theorem offers_named (named : ∀ item ∈ items, item.IsNamed) {signature : Signature}
    (offers : Offers items owner signature) : IsPlainWord signature.name := by
  obtain ⟨block, isBlock, _, _, isMember, _⟩ := offers
  exact named _ isBlock _ isMember

theorem hasGetter_named (named : ∀ item ∈ items, item.IsNamed) {name : String} (getter : HasGetter items owner name) :
    IsPlainWord name := by
  obtain ⟨signature, offers, rfl, _⟩ := getter
  exact offers_named named offers

end

/-- In what is read of a source text, a getter and its setter form one member, and each member that a field or a
getter names can be selected, unless its name is a blank. -/
theorem ofItems_addresses {text : String} {file : SourceFile} (read : SourceFile.ofText text = .ok file)
    {items : List Item} (within : items ⊆ file.items.map (·.item)) {host : Host} (hosted : ofItems items = .ok host)
    {owner : String} {fields : List Field} (declared : DeclaresStruct items owner fields) :
    ∃ id type, host.HoldsStruct owner id type ∧
      (∀ name, HasGetter items owner name → HasSetter items owner ("set_" ++ name) →
        (∀ field ∈ fields, field.name = name → field.isPublic = false) →
          (type.ownSpecs.map (·.name)).count name = 1 ∧
            ∀ spec ∈ type.ownSpecs, spec.name = name → spec.readable = true ∧ spec.settable = true) ∧
        ∀ spec ∈ type.ownSpecs, spec.name ≠ "_" →
          spec.name ∈ fields.map (·.name) ∨ HasGetter items owner spec.name →
            Mapper.Selects (lexemesText (selectorLexemes spec.name)) spec.name := by
  have named : ∀ item ∈ items, item.IsNamed := by
    intro item present
    obtain ⟨found, isFound, rfl⟩ := List.mem_map.mp (within present)
    exact (SourceFile.ofText_isRead read found isFound).named
  obtain ⟨draft, drafted⟩ := ofItems_isDrafted hosted
  obtain ⟨id, body, isDefined⟩ := drafted.structs owner fields declared
  obtain ⟨type, holds, _⟩ := isDefined.holds drafted.built
  refine ⟨id, type, holds, ?paired, ?selected⟩
  case paired => exact fun name getter setter => (holds.merges hosted declared).paired getter setter
  case selected =>
    intro spec _ notBlank source
    refine Mapper.selects_name (source.elim (fun isField => ?_) (hasGetter_named named))
    obtain ⟨field, present, same⟩ := List.mem_map.mp isField
    rw [← same] at notBlank ⊢
    exact (declaresStruct_named named declared field present).resolve_left notBlank

/-- The balance is one member, with its getter and its setter, and can be selected. -/
theorem ofItems_addresses_account : ∃ file host fields,
    ReadsStruct accountText "Account" accountMembers file host fields ∧ ∃ id type, host.HoldsStruct "Account" id type ∧
      (type.ownSpecs.map (·.name)).count "balance" = 1 ∧
        Mapper.Selects (lexemesText (selectorLexemes "balance")) "balance" := by
  obtain ⟨file, host, fields, reads⟩ := account_reads
  obtain ⟨id, type, holds, paired, selects⟩ :=
    ofItems_addresses reads.parsed (List.Subset.refl _) reads.read reads.declared
  have isMember : ("balance", MemberKind.property, true, true, false) ∈ accountMembers := by decide
  obtain ⟨spec, isSpec, named, readable, settable⟩ := reads.follows holds isMember
  have hidden := reads.hidden holds (show ∀ member ∈ accountMembers, member.1 = "balance" → _ by decide)
  refine ⟨file, host, fields, reads, id, type, holds, (paired _ (readable.mp rfl) (settable.mp rfl) hidden).1, ?_⟩
  rw [← named]
  exact selects spec isSpec (by simp [named]) (.inr (named.symm ▸ readable.mp rfl))

/-- The getter is spelt with a raw prefix, the setter without one. -/
def rawText : String :=
  "struct Row \x7b\x7d impl Row \x7b pub fn r#type(&self) -> u8 \x7b 0 \x7d " ++
    "pub fn set_type(&mut self, value: u8) \x7b\x7d \x7d"

def rawMembers : List MemberProfile :=
  [("r#type", .property, true, false, false), ("type", .property, false, true, false)]

theorem raw_reads : ∃ file host fields, ReadsStruct rawText "Row" rawMembers file host fields :=
  readsStruct_exists (by decide +kernel)

/-- A getter and a setter whose names differ by a raw prefix make two members, one of them without a name that an
identifier can have. -/
theorem ofItems_addresses_differs :
    (¬∀ (text owner : String) (file : SourceFile) (host : Host) (fields : List Field) (id : TypeId) (type : StructType)
        (name getter : String), SourceFile.ofText text = .ok file → ofItems (file.items.map (·.item)) = .ok host →
      DeclaresStruct (file.items.map (·.item)) owner fields → host.HoldsStruct owner id type →
        getter = name ∨ getter = "r#" ++ name → HasGetter (file.items.map (·.item)) owner getter →
          HasSetter (file.items.map (·.item)) owner ("set_" ++ name) →
            (∀ field ∈ fields, field.name = name ∨ field.name = "r#" ++ name → field.isPublic = false) →
              ∃ spec ∈ type.ownSpecs, (spec.name = name ∨ spec.name = "r#" ++ name) ∧
                spec.readable = true ∧ spec.settable = true) ∧
      ¬∀ (text owner : String) (file : SourceFile) (host : Host) (fields : List Field) (id : TypeId)
          (type : StructType), SourceFile.ofText text = .ok file → ofItems (file.items.map (·.item)) = .ok host →
        DeclaresStruct (file.items.map (·.item)) owner fields → host.HoldsStruct owner id type →
          ∀ spec ∈ type.ownSpecs, IsPlainWord spec.name := by
  obtain ⟨file, host, fields, reads⟩ := raw_reads
  obtain ⟨draft, drafted⟩ := ofItems_isDrafted reads.read
  obtain ⟨id, body, isDefined⟩ := drafted.structs "Row" fields reads.declared
  obtain ⟨type, holds, _⟩ := isDefined.holds drafted.built
  have isGot : ("r#type", MemberKind.property, true, false, false) ∈ rawMembers := by decide
  have isSet : ("type", MemberKind.property, false, true, false) ∈ rawMembers := by decide
  obtain ⟨got, _, _, getter, _⟩ := reads.follows holds isGot
  obtain ⟨set, setPresent, setNamed, _, setter⟩ := reads.follows holds isSet
  have onlyProperties : ∀ member ∈ rawMembers, member.2.1 = .property := by decide
  refine ⟨fun paired => ?paired, fun named => ?named⟩
  case paired =>
    obtain ⟨spec, isSpec, _, readable, settable⟩ := paired rawText "Row" file host fields id type "type" "r#type"
      reads.parsed reads.read reads.declared holds (.inr rfl) (getter.mp rfl) (setter.mp rfl)
      fun field present _ =>
        reads.hidden holds (fun member isMember _ => onlyProperties member isMember) field present rfl
    have listed := reads.listed holds isSpec
    rw [memberProfile, readable, settable] at listed
    simp [rawMembers] at listed
  case named =>
    have isName :=
      named rawText "Row" file host fields id type reads.parsed reads.read reads.declared holds set setPresent
    exact isName.notKeyword (setNamed ▸ by decide)

end Host

end ObjectMapping
