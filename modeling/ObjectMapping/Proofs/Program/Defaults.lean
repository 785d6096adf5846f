/-
This file proves which fields of a destination get their default when it is created by a struct literal: markers,
what the user ignores and what is of the type of the base, but no field with other data.
-/

import ObjectMapping.Proofs.Program.Emission
import ObjectMapping.Proofs.Program.PublicInterface
import ObjectMapping.Proofs.Resolution.Unassigned

namespace ObjectMapping

open Host Rendering Source

/-- A declared field gets its default if it is a marker, if the mapper ignores it or if it holds the base of the
destination, and else a value. -/
structure Mapper.Fills (mapper : Mapper) (host : Host) (destination : StructType) (field : Field)
    (entry : FieldValue) : Prop where
  named : entry.field = field.name
  default : entry.value = none ↔ isMarkerType field.type = true ∨ mapper.directives.Ignores field.name ∨
    host.HoldsBase destination field

/-- A field of a struct literal has no value if and only if the plan does not assign it. -/
theorem Rendering.Scope.Initializes.value_none {scope : Scope} {plan : Plan} {member : Member} {entry : FieldValue}
    (initializes : scope.Initializes plan member entry) :
    entry.field = member.name ∧ (entry.value = none ↔ member.name ∉ plan.assignments.map (·.member)) := by
  cases initializes with
  | assigned assignment value present named => simpa using ⟨assignment, present, named⟩
  | defaulted unassigned => simpa using unassigned

namespace Program

variable {program : Program}

/-- A struct literal fills each field that the destination declares. -/
def FillsFields (program : Program) (items : List Item) (mapper : Mapper) (rendered : RenderedMapper) : Prop :=
  ∀ destination entries, rendered.body.creation = .literal destination entries →
    ∃ id descriptor type, mapper.method.result = .named id ∧
      program.host.schema.expectStruct id = .ok (descriptor, type) ∧ descriptor.ident = destination ∧
        (∃ fields, DeclaresStruct items destination fields) ∧
          ∀ fields, DeclaresStruct items destination fields →
            List.Forall₂ (mapper.Fills program.host type) fields entries ∧
              ∀ field ∈ fields, program.host.HoldsBase type field →
                ∃ target, Dereferences items destination target ∧ field.type.named? = some target

theorem Makes.fillsFields {items : List Item} {draft : SchemaDraft}
    (collected : IsCollected items program.host draft) {mapper : Mapper} {rendered : RenderedMapper}
    (makes : program.Makes mapper rendered) : program.FillsFields items mapper rendered := by
  intro destination entries isCreation
  obtain ⟨included, task, call, id, _, _, accepted, clean, planned, isResult, found, isStruct, bodyMade⟩ := makes.body
  have laidOut := draft.build_struct _ collected.built id task.destination _ found isStruct
  have emits : Scope.Emits _ _ _ (task.destination, task.destinationStruct) rendered.body :=
    Scope.bodyWith_emits laidOut task.assignments_kinds bodyMade
  generalize rendered.body = body at isCreation emits
  cases emits with
  | call => cases isCreation
  | literal fields writes isLiteral own =>
      cases isCreation
      have offered := isLiteral ▸ MappingTask.constructor_offered planned
      refine ⟨id, task.destination, task.destinationStruct, isResult,
        (Schema.expectStruct_ok _ _ _ _).mpr ⟨found, isStruct⟩, rfl, (collected.keepsTo found isStruct).declared,
        fun declared isDeclared => ⟨?_, fun field _ holds => collected.holdsBase found isStruct holds⟩⟩
      have ownFields := collected.ownFields found isStruct offered isDeclared
      have isOwn : ∀ member ∈ task.destinationStruct.ownFields, member ∈ task.destinationStruct.members :=
        fun member present => (StructType.mem_ownFields.mp present).1
      refine (forall₂_comp ownFields ((List.forall₂_and_left _ _).mpr ⟨isOwn, own⟩)).imp ?_
      rintro field entry ⟨member, isDeclaredAs, isMember, initializes⟩
      obtain ⟨named, noValue⟩ := initializes.value_none
      refine ⟨named.trans isDeclaredAs.name, ?_⟩
      rw [noValue, MappingTask.literal_unassigned laidOut planned isLiteral clean isMember isDeclaredAs.settable,
        isDeclaredAs.system, isDeclaredAs.name, (Request.toTask_ok _ _ _ accepted).sameRequest, or_assoc,
        or_congr_right or_comm]
      rfl

end Program

/-- Where generated code creates the destination by a struct literal, a field gets its default if it is a marker, if
the mapper ignores it or if it is of the type that the destination dereferences to; every other field gets a
value. -/
theorem generate_fillsFields {text : String} {file : SourceFile} (read : SourceFile.ofText text = .ok file)
    {code : GeneratedCode} (generated : generate file = .ok code) : ∃ program, Program.ofFile file = .ok program ∧
      List.Forall₂ (program.FillsFields (file.items.map (·.item))) program.mappers code.mappers := by
  obtain ⟨program, programRead, _, makes⟩ := generate_made generated
  obtain ⟨draft, collected⟩ := Program.ofFile_isCollected (SourceFile.ofText_isSound read) programRead
  exact ⟨program, programRead, makes.imp fun _ _ made => made.fillsFields collected⟩

/-- The fields that a struct literal gives their default. -/
def Rendering.Creation.defaulted : Creation → List String
  | .literal _ entries => (entries.filter (·.value.isNone)).map (·.field)
  | .call _ _ _ => []

/-- A card holds a base, a marker and a note that is ignored. -/
def cardText : String :=
  "#[mapper] trait ToCard \x7b fn map(user: &User) -> Card; " ++
    "fn new() \x7b ignore_member(|card| card.note); \x7d \x7d " ++
    "struct User \x7b pub id: u8, pub name: u8 \x7d struct Base \x7b pub id: u8 \x7d struct Card " ++
    "\x7b pub base: Base, pub mark: PhantomData<u8>, pub name: u8, pub note: u8 \x7d " ++
    "impl Deref for Card \x7b type Target = Base; \x7d"

/-- Of the fields of a card only the name carries data of its own. -/
theorem generate_fillsFields_card : ∃ file code program, SourceFile.ofText cardText = .ok file ∧
    generate file = .ok code ∧ code.mappers.map (·.body.creation.defaulted) = [["base", "mark", "note"]] ∧
      Program.ofFile file = .ok program ∧
        List.Forall₂ (program.FillsFields (file.items.map (·.item))) program.mappers code.mappers := by
  have filled : passes (fun file => passes (fun code =>
      decide (code.mappers.map (·.body.creation.defaulted) = [["base", "mark", "note"]])) (generate file))
      (SourceFile.ofText cardText) = true := by
    have chars : CharsOf cardText _ := .append (.append (.append (.append (.literal _) _) _) _) _
    rw [SourceFile.ofText_chars chars]
    decide +kernel
  obtain ⟨file, read, filled⟩ := passes_iff.mp filled
  obtain ⟨code, generated, filled⟩ := passes_iff.mp filled
  obtain ⟨program, programRead, fills⟩ := generate_fillsFields read generated
  exact ⟨file, code, program, read, generated, of_decide_eq_true filled, programRead, fills⟩

/-- The declared fields that a struct literal gives their default, although they are no markers and the mapper does
not ignore them. -/
def Mapper.silentDefaults (mapper : Mapper) (items : List Item) : Creation → List Field
  | .literal destination entries =>
      let declared := (items.filterMap Declaration.ofItem?).flatMap fun
        | .struct name fields => if name == destination then fields else []
        | .enum _ _ => []
      let pairs := (declared.zip entries).filter fun (field, entry) =>
        entry.value.isNone && !isMarkerType field.type && !mapper.directives.ignores.any (·.member == field.name)
      pairs.map (·.1)
  | .call _ _ _ => []

/-- A frame has two fields of the type that it dereferences to, and what is mapped to it has the one. -/
def frameText : String :=
  "#[mapper] trait ToFrame \x7b fn map(scene: &Scene) -> Frame; \x7d struct Base \x7b\x7d " ++
    "struct Scene \x7b pub other: Base \x7d struct Frame \x7b pub base: Base, pub other: Base \x7d " ++
    "impl Deref for Frame \x7b type Target = Base; fn deref(&self) -> &Base \x7b &self.base \x7d \x7d"

/-- More than one field with data can get its default unasked. -/
theorem generate_defaultsTwo : ¬∀ (text : String) (file : SourceFile) (code : GeneratedCode) (program : Program),
    SourceFile.ofText text = .ok file → generate file = .ok code → Program.ofFile file = .ok program →
      ∀ pair ∈ program.mappers.zip code.mappers,
        (pair.1.silentDefaults (file.items.map (·.item)) pair.2.body.creation).length ≤ 1 := by
  have silent : passes (fun file => passes (fun code => passes (fun program =>
      decide ((program.mappers.zip code.mappers).map (fun pair =>
        (pair.1.silentDefaults (file.items.map (·.item)) pair.2.body.creation).map (·.name)) =
          [["base", "other"]])) (Program.ofFile file)) (generate file)) (SourceFile.ofText frameText) = true := by
    have chars : CharsOf frameText _ := .append (.append (.literal _) _) _
    rw [SourceFile.ofText_chars chars]
    decide +kernel
  obtain ⟨file, read, silent⟩ := passes_iff.mp silent
  obtain ⟨code, generated, silent⟩ := passes_iff.mp silent
  obtain ⟨program, programRead, silent⟩ := passes_iff.mp silent
  intro atMostOne
  have names := of_decide_eq_true silent
  obtain ⟨pair, single, twice⟩ := List.map_eq_singleton_iff.mp names
  have isPair : pair ∈ program.mappers.zip code.mappers := single ▸ List.mem_cons_self
  have atMost := atMostOne frameText file code program read generated programRead pair isPair
  have count := congrArg List.length twice
  rw [List.length_map] at count
  rw [count] at atMost
  exact absurd atMost (by decide)

end ObjectMapping
