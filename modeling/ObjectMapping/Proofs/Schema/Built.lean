/-
This file states what a schema holds once it is built: descriptors at the places of their ids, members in
the order of their ranks, and names that tell the members of a struct apart.
-/

import Mathlib.Data.List.Nodup
import ObjectMapping.Proofs.Fallible
import ObjectMapping.Proofs.Schema.Places
import ObjectMapping.Schema.Build

namespace ObjectMapping

namespace SchemaDraft

/-- The members of a struct are ranked from zero in their order. -/
theorem layOut_ranks (id : TypeId) (own : List MemberSpec) (bases : List StructDefinition) :
    (layOut id own bases).map (·.rank) = List.range (layOut id own bases).length := by
  apply List.ext_getElem
  · simp
  · intro index left right
    simp [layOut]

/-- The members of a struct are its own. -/
theorem layOut_owner (id : TypeId) (own : List MemberSpec) (bases : List StructDefinition)
    (member : Member) (present : member ∈ layOut id own bases) : member.owner = id := by
  simp only [layOut, List.mem_map] at present
  obtain ⟨entry, _, same⟩ := present
  rw [← same]

/-- Members are laid out as they are declared, the inherited ones marked. -/
theorem layOut_specs (id : TypeId) (own : List MemberSpec) (bases : List StructDefinition) :
    (layOut id own bases).map (fun member => (member.toMemberSpec, member.inherited)) =
      bases.reverse.flatMap (fun definition => definition.members.map (·, true)) ++ own.map (·, false) := by
  rw [layOut, List.map_map]
  exact List.zipIdx_map_fst 0 _

/-- A descriptor has the id and the identifier that it is made for; a struct gets its members from its
definition and those of its bases. -/
theorem describe_ok (draft : SchemaDraft) (id : TypeId) (slot : Slot) (descriptor : TypeDescriptor)
    (described : draft.describe id slot = .ok descriptor) :
    (∃ variants, slot.definition = some (.enum variants) ∧
      descriptor = ⟨id, slot.ident, .enum variants⟩) ∨
    ∃ definition bases, slot.definition = some (.struct definition) ∧
      draft.baseChain slot.ident (draft.ids.erase id) definition.base = .ok bases ∧
      descriptor = ⟨id, slot.ident, .struct
        ⟨definition.base, layOut id definition.members bases, definition.constructors⟩⟩ := by
  unfold describe at described
  cases found : slot.definition with
  | none => simp [found] at described
  | some body =>
      cases body with
      | «enum» variants =>
          simp only [found, Except.ok.injEq] at described
          exact .inl ⟨variants, rfl, described.symm⟩
      | struct definition =>
          simp only [found, flatten, bind_ok, Except.ok.injEq] at described
          obtain ⟨type, ⟨bases, chain, laidOut⟩, same⟩ := described
          rw [← laidOut] at same
          exact .inr ⟨definition, bases, rfl, chain, same.symm⟩

/-- Building succeeds if no definition is misplaced, no slot has a fault, every slot is described, and no
descriptor has a fault. -/
theorem build_ok (draft : SchemaDraft) (schema : Schema) :
    draft.build = .ok schema ↔
      draft.misplaced = [] ∧ (∀ slot ∈ draft.slots, slotFault? slot = none) ∧
        (draft.slots.zipIdx.mapM fun (slot, index) => draft.describe ⟨index⟩ slot) = .ok schema.types ∧
          ∀ descriptor ∈ schema.types, schema.descriptorFault? descriptor = none := by
  rw [← List.findSome?_eq_none_iff, ← List.findSome?_eq_none_iff, build]
  cases draft.misplaced with
  | cons name rest => simp
  | nil =>
      cases draft.slots.findSome? slotFault? with
      | some fault => simp
      | none =>
          simp only [bind_ok, true_and]
          constructor
          · rintro ⟨types, described, checked⟩
            cases fault : types.findSome? (Schema.descriptorFault? ⟨types⟩) with
            | some found => simp [fault] at checked
            | none =>
                simp only [fault, Except.ok.injEq] at checked
                subst checked
                exact ⟨described, fault⟩
          · rintro ⟨described, clean⟩
            refine ⟨schema.types, described, ?_⟩
            rw [clean]

/-- Building keeps one descriptor for each slot and lets none pass that has a fault. -/
theorem build_descriptors (draft : SchemaDraft) (schema : Schema) (built : draft.build = .ok schema) :
    List.Forall₂ (fun entry descriptor => draft.describe ⟨entry.2⟩ entry.1 = .ok descriptor)
        draft.slots.zipIdx schema.types ∧
      ∀ descriptor ∈ schema.types, schema.descriptorFault? descriptor = none := by
  obtain ⟨_, _, described, clean⟩ := (draft.build_ok schema).mp built
  exact ⟨(mapM_ok _ _ _).mp described, clean⟩

end SchemaDraft

namespace Schema

/-- Members are without a fault if their names differ, from those seen before as well, and the schema holds
all that their types name. -/
theorem memberFault?_none (schema : Schema) (owner : String) (seen : List String)
    (members : List Member) :
    schema.memberFault? owner seen members = none ↔
      (members.map (·.name)).Nodup ∧ (∀ member ∈ members, member.name ∉ seen) ∧
        ∀ member ∈ members, schema.unknownType? member.type = none := by
  induction members generalizing seen with
  | nil => simp [memberFault?]
  | cons member rest inductionHypothesis =>
      unfold memberFault?
      cases repeated : seen.contains member.name with
      | true =>
          have isSeen : member.name ∈ seen := by simpa using repeated
          rw [if_pos rfl]
          exact ⟨nofun, fun clean => absurd isSeen (clean.2.1 member List.mem_cons_self)⟩
      | false =>
          have notSeen : member.name ∉ seen := by simpa using repeated
          rw [if_neg Bool.false_ne_true]
          cases unknown : schema.unknownType? member.type with
          | some fault => simp [unknown]
          | none =>
              rw [inductionHypothesis (member.name :: seen), List.map_cons, List.nodup_cons,
                List.forall_mem_cons, List.forall_mem_cons]
              constructor
              · rintro ⟨distinct, fresh, known⟩
                refine ⟨⟨?_, distinct⟩, ⟨notSeen, ?_⟩, unknown, known⟩
                · intro present
                  obtain ⟨other, inRest, sameName⟩ := List.mem_map.mp present
                  exact fresh other inRest (by simp [sameName])
                · exact fun other inRest seenBefore =>
                    fresh other inRest (List.mem_cons_of_mem _ seenBefore)
              · rintro ⟨⟨isNew, distinct⟩, ⟨_, fresh⟩, _, known⟩
                refine ⟨distinct, ?_, known⟩
                intro other inRest present
                obtain sameName | seenBefore := List.mem_cons.mp present
                · exact isNew (List.mem_map.mpr ⟨other, inRest, sameName⟩)
                · exact fresh other inRest seenBefore

end Schema

/-- What the members of a struct have in common once the struct is built. -/
structure StructType.IsLaidOut (type : StructType) (id : TypeId) : Prop where
  ranks : type.members.map (·.rank) = List.range type.members.length
  distinct : (type.members.map (·.name)).Nodup
  owners : ∀ member ∈ type.members, member.owner = id

/-- An entry is found by its name where names differ. -/
theorem find?_named {α : Type} {name : α → String} {entries : List α} (distinct : (entries.map name).Nodup)
    {entry : α} (present : entry ∈ entries) :
    entries.find? (fun other => name other == name entry) = some entry := by
  cases found : entries.find? (fun other => name other == name entry) with
  | none =>
      have absent := List.find?_eq_none.mp found entry present
      simp at absent
  | some other =>
      have sameName : name other = name entry := by simpa using List.find?_some found
      rw [List.inj_on_of_nodup_map distinct (List.mem_of_find?_eq_some found) present sameName]

/-- The name of a member leads to that member alone. -/
theorem StructType.IsLaidOut.member? {type : StructType} {id : TypeId} (laidOut : type.IsLaidOut id)
    (member : Member) (present : member ∈ type.members) : type.member? member.name = some member := by
  rw [type.member?_eq]
  exact find?_named laidOut.distinct present

namespace SchemaDraft

/-- What stands at a place of a built schema was described for that place, and has no fault. -/
theorem build_at (draft : SchemaDraft) (schema : Schema) (built : draft.build = .ok schema)
    (id : TypeId) (descriptor : TypeDescriptor) (found : schema.get? id = some descriptor) :
    (∃ slot, draft.slots[id.index]? = some slot ∧ draft.describe id slot = .ok descriptor) ∧
      schema.descriptorFault? descriptor = none := by
  obtain ⟨descriptors, clean⟩ := draft.build_descriptors schema built
  obtain ⟨inRange, atPlace⟩ := List.getElem?_eq_some_iff.mp found
  have slotInRange : id.index < draft.slots.zipIdx.length := by
    rw [descriptors.length_eq]
    exact inRange
  have described := descriptors.get slotInRange inRange
  simp only [List.get_eq_getElem, atPlace, List.getElem_zipIdx, Nat.zero_add] at described
  exact ⟨⟨_, List.getElem?_eq_getElem (by simpa using slotInRange), described⟩,
    clean descriptor (List.mem_of_getElem? found)⟩

/-- What stands at a place of the draft is described at that place of a built schema. -/
theorem build_slot (draft : SchemaDraft) (schema : Schema) (built : draft.build = .ok schema)
    (id : TypeId) (slot : Slot) (found : draft.slots[id.index]? = some slot) :
    ∃ descriptor, schema.get? id = some descriptor ∧ draft.describe id slot = .ok descriptor := by
  obtain ⟨descriptors, _⟩ := draft.build_descriptors schema built
  obtain ⟨inRange, atPlace⟩ := List.getElem?_eq_some_iff.mp found
  have slotInRange : id.index < draft.slots.zipIdx.length := by simpa using inRange
  have typeInRange : id.index < schema.types.length := descriptors.length_eq ▸ slotInRange
  have described := descriptors.get slotInRange typeInRange
  simp only [List.get_eq_getElem, List.getElem_zipIdx, atPlace, Nat.zero_add] at described
  exact ⟨_, List.getElem?_eq_getElem typeInRange, described⟩

/-- Every struct of a built schema is laid out. -/
theorem build_struct (draft : SchemaDraft) (schema : Schema) (built : draft.build = .ok schema)
    (id : TypeId) (descriptor : TypeDescriptor) (type : StructType)
    (found : schema.get? id = some descriptor) (isStruct : descriptor.kind = .struct type) :
    type.IsLaidOut id := by
  obtain ⟨⟨slot, _, described⟩, clean⟩ := draft.build_at schema built id descriptor found
  rcases draft.describe_ok id slot descriptor described with
    ⟨variants, _, same⟩ | ⟨definition, bases, _, _, same⟩
  · rw [same] at isStruct
    cases isStruct
  · simp only [Schema.descriptorFault?, isStruct] at clean
    rw [same] at isStruct
    cases isStruct
    cases fault : schema.memberFault? descriptor.ident [] (layOut id definition.members bases) with
    | some found => simp [fault] at clean
    | none =>
        exact ⟨layOut_ranks _ _ _, ((schema.memberFault?_none _ _ _).mp fault).1, layOut_owner _ _ _⟩

/-- Orders and their summaries, each with an enum of its own. -/
def orderDraft : SchemaDraft where
  slots :=
    [⟨"Status", some (.enum ["Open", "Closed"])⟩,
      ⟨"State", some (.enum ["Closed", "Open"])⟩,
      ⟨"Order", some (.struct ⟨none,
        [.accessible "id" (.scalar .i32) .field, .accessible "status" (.named ⟨0⟩) .field],
        [.literal]⟩)⟩,
      ⟨"Summary", some (.struct ⟨none,
        [.accessible "id" (.scalar .i64) .field, .accessible "status" (.named ⟨1⟩) .field,
          .accessible "label" (.scalar .string) .field, .accessible "total" (.scalar .f64) .field],
        [.function "new" [⟨"id", .scalar .i64⟩]]⟩)⟩]
  misplaced := []

/-- The schema of `orderDraft`. -/
def orderSchema : Schema where
  types :=
    [⟨⟨0⟩, "Status", .enum ["Open", "Closed"]⟩,
      ⟨⟨1⟩, "State", .enum ["Closed", "Open"]⟩,
      ⟨⟨2⟩, "Order", .struct ⟨none, layOut ⟨2⟩
        [.accessible "id" (.scalar .i32) .field, .accessible "status" (.named ⟨0⟩) .field] [],
        [.literal]⟩⟩,
      ⟨⟨3⟩, "Summary", .struct ⟨none, layOut ⟨3⟩
        [.accessible "id" (.scalar .i64) .field, .accessible "status" (.named ⟨1⟩) .field,
          .accessible "label" (.scalar .string) .field, .accessible "total" (.scalar .f64) .field] [],
        [.function "new" [⟨"id", .scalar .i64⟩]]⟩⟩]

theorem orderDraft_build : orderDraft.build = .ok orderSchema := by
  decide +kernel

/-- Invoices and what is shown of them; an invoice shown takes its customer on construction. -/
def invoiceDraft : SchemaDraft where
  slots :=
    [⟨"InvoiceStatus", some (.enum ["Draft", "Sent"])⟩,
      ⟨"InvoiceStatusDto", some (.enum ["Draft", "Sent", "Paid"])⟩,
      ⟨"Customer", some (.struct ⟨none, [], [.literal]⟩)⟩,
      ⟨"CustomerDto", some (.struct ⟨none, [], [.literal]⟩)⟩,
      ⟨"Invoice", some (.struct ⟨none,
        [.accessible "status" (.named ⟨0⟩) .field, .accessible "previous" (.nullable (.named ⟨0⟩)) .field,
          .accessible "customer" (.named ⟨2⟩) .field],
        [.literal]⟩)⟩,
      ⟨"InvoiceDto", some (.struct ⟨none,
        [.accessible "status" (.named ⟨1⟩) .field, .accessible "previous" (.nullable (.named ⟨1⟩)) .field,
          .accessible "customer" (.named ⟨3⟩) .field],
        [.function "new" [⟨"previous", .nullable (.named ⟨1⟩)⟩, ⟨"customer", .named ⟨3⟩⟩]]⟩)⟩]
  misplaced := []

/-- The schema of `invoiceDraft`. -/
def invoiceSchema : Schema where
  types :=
    [⟨⟨0⟩, "InvoiceStatus", .enum ["Draft", "Sent"]⟩,
      ⟨⟨1⟩, "InvoiceStatusDto", .enum ["Draft", "Sent", "Paid"]⟩,
      ⟨⟨2⟩, "Customer", .struct ⟨none, [], [.literal]⟩⟩,
      ⟨⟨3⟩, "CustomerDto", .struct ⟨none, [], [.literal]⟩⟩,
      ⟨⟨4⟩, "Invoice", .struct ⟨none, layOut ⟨4⟩
        [.accessible "status" (.named ⟨0⟩) .field, .accessible "previous" (.nullable (.named ⟨0⟩)) .field,
          .accessible "customer" (.named ⟨2⟩) .field] [],
        [.literal]⟩⟩,
      ⟨⟨5⟩, "InvoiceDto", .struct ⟨none, layOut ⟨5⟩
        [.accessible "status" (.named ⟨1⟩) .field, .accessible "previous" (.nullable (.named ⟨1⟩)) .field,
          .accessible "customer" (.named ⟨3⟩) .field] [],
        [.function "new" [⟨"previous", .nullable (.named ⟨1⟩)⟩, ⟨"customer", .named ⟨3⟩⟩]]⟩⟩]

theorem invoiceDraft_build : invoiceDraft.build = .ok invoiceSchema := by
  decide +kernel

end SchemaDraft

end ObjectMapping
