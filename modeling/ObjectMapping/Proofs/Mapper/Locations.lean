/-
This file proves that a mapper keeps the location of everything that a diagnostic about it can be reported at.
-/

import ObjectMapping.Proofs.Mapper.Declaration
import ObjectMapping.Proofs.Mapper.Instruction
import ObjectMapping.Proofs.Resolution.Locations

namespace ObjectMapping.Mapper

open Source

/-- Where what an instruction says can be reported. -/
def Instruction.locations : Instruction → List Location
  | .mapMember directive => directive.locations
  | .ignoreMember directive => [directive.location]
  | .mapCollection directive => directive.locations
  | .chooseConstructor choice => choice.locations
  | .includeMappers _ => []
  | .mapEnum directive => [directive.location]
  | .none location => [location]

/-- What a statement says is reported where the statement stands or at one of its value expressions. -/
theorem instruction_locations {host : Host} {statement : Statement} {given : Instruction}
    (read : instruction host statement = .ok given) :
    given.locations ⊆ statementLocation statement :: given.transforms.map (·.location) := by
  rw [statementLocation_call?]
  cases instruction_says read with
  | nothing noCall =>
      rw [noCall]
      exact List.Subset.refl _
  | directive call given isCall gives =>
      rw [isCall]
      cases gives with
      | includeMappers => exact List.nil_subset _
      | _ => exact List.Subset.refl _

namespace Configuration

/-- Everything that is reported about the directives so far has a location that is kept. -/
structure IsLocated (configuration : Configuration) : Prop where
  directives : configuration.directives.locations ⊆ configuration.locations
  diagnostics : ∀ diagnostic ∈ configuration.diagnostics, diagnostic.location ∈ configuration.locations

/-- An instruction adds a directive or a diagnostic about itself, and no location. -/
theorem add_ok {mapper : String} {configuration extended : Configuration} {given : Instruction}
    (added : add mapper configuration given = .ok extended) :
    extended.locations = configuration.locations ∧
      extended.directives.locations ⊆ configuration.directives.locations ++ given.locations ∧
      ∀ diagnostic ∈ extended.diagnostics,
        diagnostic ∈ configuration.diagnostics ∨ diagnostic.location ∈ given.locations := by
  have sameDirectives : configuration.directives.locations ⊆
      configuration.directives.locations ++ given.locations := List.subset_append_left _ _
  cases given with
  | chooseConstructor choice =>
      rw [add] at added
      split at added
      · cases added
      · cases added
        refine ⟨rfl, fun location => ?_, fun _ => .inl⟩
        grind [Directives.mem_locations, Instruction.locations]
  | includeMappers inclusions =>
      cases added
      exact ⟨rfl, sameDirectives, fun _ => .inl⟩
  | none location =>
      cases added
      refine ⟨rfl, sameDirectives, fun diagnostic present => ?_⟩
      obtain earlier | isLast := List.mem_append.mp present
      · exact .inl earlier
      · cases List.mem_singleton.mp isLast
        exact .inr List.mem_cons_self
  | mapMember | ignoreMember | mapCollection | mapEnum =>
      cases added
      refine ⟨rfl, fun location => ?_, fun _ => .inl⟩
      grind [Directives.mem_locations, Instruction.locations]

/-- A statement keeps the configuration located. -/
theorem addStatement_isLocated {host : Host} {mapper : String} {checked : Checked Configuration}
    (located : checked.value.IsLocated) (statement : Statement) :
    (addStatement host mapper checked statement).value.IsLocated := by
  unfold addStatement
  split
  · next extended added =>
      obtain ⟨given, read, added⟩ := (bind_ok _ _ _).mp added
      obtain ⟨keeps, ofDirectives, ofDiagnostics⟩ := add_ok added
      have isKept : given.locations ⊆ extended.locations := fun location within =>
        keeps ▸ List.mem_append_right _ (instruction_locations read within)
      have wasKept : checked.value.locations ⊆ extended.locations := fun location within =>
        keeps ▸ List.mem_append_left _ within
      refine ⟨fun location within => ?_, fun diagnostic present => ?_⟩
      · obtain before | new := List.mem_append.mp (ofDirectives within)
        · exact wasKept (located.directives before)
        · exact isKept new
      · obtain before | new := ofDiagnostics diagnostic present
        · exact wasKept (located.diagnostics diagnostic before)
        · exact isKept new
  · exact located

/-- A configuration keeps the location of everything that is reported about it. -/
theorem ofStatements_isLocated (host : Host) (mapper : String) (statements : List Statement) :
    (ofStatements host mapper statements).value.IsLocated := by
  refine List.foldlRecOn (motive := fun (checked : Checked Configuration) => checked.value.IsLocated)
    statements _ ⟨List.nil_subset _, nofun⟩ ?_
  intro checked located statement _
  exact addStatement_isLocated located statement

end Configuration

namespace Members

/-- Everything that is reported about the members so far has a location that is kept, and so has the mapping
method. -/
structure IsLocated (members : Members) : Prop where
  method : ∀ found ∈ members.method, found.2.location ∈ members.locations
  diagnostics : ∀ diagnostic ∈ members.diagnostics, diagnostic.location ∈ members.locations

theorem report_isLocated {members : Members} (located : members.IsLocated) (location : Location)
    (finding : Finding) : (members.report location finding).IsLocated := by
  refine ⟨fun found isFound => List.mem_append_left _ (located.method found isFound), ?_⟩
  intro diagnostic present
  obtain before | new := List.mem_append.mp present
  · exact List.mem_append_left _ (located.diagnostics diagnostic before)
  · cases List.mem_singleton.mp new
    exact List.mem_append_right _ List.mem_cons_self

theorem configure_isLocated {mapper : String} {members : Members} (located : members.IsLocated)
    (signature : Signature) (body : List Statement) : (members.configure mapper signature body).IsLocated := by
  unfold configure
  dsimp only
  split
  · exact ⟨located.method, located.diagnostics⟩
  · have reported := report_isLocated located (tokensLocation signature.inputTokens)
      (.mapperConstructorWithParameters mapper)
    exact ⟨reported.method, reported.diagnostics⟩

theorem declare_isLocated {members : Members} (located : members.IsLocated) (signature : Signature)
    (method : MapperMethod) : (members.declare signature method).IsLocated := by
  refine ⟨fun found isFound => ?_, fun diagnostic present => ?_⟩
  · cases isFound
    exact List.mem_append_right _ List.mem_cons_self
  · exact List.mem_append_left _ (located.diagnostics diagnostic present)

theorem add_isLocated {host : Host} {mapper : String} {checked : Checked Members}
    (located : checked.value.IsLocated) (member : TraitMember) :
    (add host mapper checked member).value.IsLocated := by
  cases member with
  | other => exact located
  | function tokens signature body =>
      cases body with
      | some statements =>
          rw [add]
          split
          · exact configure_isLocated located signature statements
          · exact located
      | none =>
          simp only [add]
          split
          · exact report_isLocated located _ _
          · split
            · exact declare_isLocated located signature _
            · exact located

end Members

/-- Every location that a diagnostic about the mapper can have is kept. -/
structure IsLocated (mapper : Mapper) : Prop where
  method : mapper.method.location ∈ mapper.locations
  directives : mapper.directives.locations ⊆ mapper.locations
  diagnostics : ∀ diagnostic ∈ mapper.diagnostics, diagnostic.location ∈ mapper.locations

/-- A mapper that a trait declares is located. -/
theorem ofTrait_isLocated {host : Host} {item : TraitItem} {mapper : Mapper}
    (declared : ofTrait host item = .ok mapper) : mapper.IsLocated := by
  obtain ⟨members, configuration, made⟩ := ofTrait_ok declared
  have membersLocated : (item.members.foldl (Members.add host item.name) ⟨.none, []⟩).value.IsLocated := by
    refine List.foldlRecOn (motive := fun (checked : Checked Members) => checked.value.IsLocated)
      item.members _ ⟨nofun, nofun⟩ ?_
    intro checked located member _
    exact Members.add_isLocated located member
  rw [made.read] at membersLocated
  have located := Configuration.ofStatements_isLocated host item.name members.configuration
  rw [made.configured] at located
  refine ⟨?_, ?_, ?_⟩
  · rw [made.locations]
    exact List.mem_append_left _ (membersLocated.method _ made.method)
  · rw [made.locations, made.directives]
    exact fun _ within => List.mem_append_right _ (located.directives within)
  · rw [made.locations, made.diagnostics]
    intro diagnostic present
    obtain ofMembers | ofConfiguration := List.mem_append.mp present
    · exact List.mem_append_left _ (membersLocated.diagnostics diagnostic ofMembers)
    · exact List.mem_append_right _ (located.diagnostics diagnostic ofConfiguration)

end ObjectMapping.Mapper
