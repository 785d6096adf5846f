/-
This file proves what is known of the mappers that the traits of a source file declare: the value expressions
in their directives are written in the file, and their signatures declare their mapping methods.
-/

import ObjectMapping.Mapper.Declaration
import ObjectMapping.Proofs.Mapper.Transform

namespace ObjectMapping

open Source

/-- The directives are written in a source text: their item transforms are, and the members that they are about have
names. -/
structure Directives.AreWritten (directives : Directives) : Prop where
  items : ∀ directive ∈ directives.collections, directive.item.IsWritten
  mapped : ∀ directive ∈ directives.mapMembers, IsName directive.member
  ignored : ∀ directive ∈ directives.ignores, IsName directive.member
  collected : ∀ directive ∈ directives.collections, IsName directive.member

namespace Mapper

/-- The function declares the mapping method: it takes the source first, and all of its parameters are read. -/
structure Declares (host : Host) (signature : Signature) (method : MapperMethod) : Prop where
  name : method.name = signature.name
  source : Host.typedInputs signature ≠ []
  params : List.Forall₂ (fun input param => methodParam host input.1 input.2 = .ok param)
    (Host.typedInputs signature) method.params
  result : ∃ type, signature.result = some type ∧ TypeRef.ofWritten host.names type = method.result

theorem mappingMethod_declares {host : Host} {signature : Signature} {method : MapperMethod}
    (declared : mappingMethod host signature = .ok method) : Declares host signature method := by
  unfold mappingMethod at declared
  split at declared
  · cases declared
  · cases declared
  · cases declared
  · next input rest result noReceiver isInput isResult =>
      obtain ⟨params, read, declared⟩ := (bind_ok _ _ _).mp declared
      cases declared
      refine ⟨rfl, ?_, (mapM_ok _ _ _).mp read, result, isResult, rfl⟩
      cases input with
      | receiver tokens isReference isMutable =>
          rw [Signature.receiver?, isInput] at noReceiver
          cases noReceiver
      | typed tokens pattern type =>
          rw [Host.typedInputs, isInput]
          nofun

namespace Configuration

theorem add_areWritten {mapper : String} {configuration extended : Configuration}
    {given : Instruction} (areWritten : configuration.directives.AreWritten) (isWritten : given.IsWritten)
    (added : add mapper configuration given = .ok extended) : extended.directives.AreWritten := by
  obtain ⟨items, mapped, ignored, collected⟩ := areWritten
  cases given with
  | mapMember directive =>
      cases added
      exact ⟨items, List.forall_mem_append.mpr ⟨mapped, List.forall_mem_singleton.mpr (isWritten.member _ rfl)⟩,
        ignored, collected⟩
  | ignoreMember directive =>
      cases added
      exact ⟨items, mapped,
        List.forall_mem_append.mpr ⟨ignored, List.forall_mem_singleton.mpr (isWritten.member _ rfl)⟩, collected⟩
  | mapCollection directive =>
      cases added
      have itemWritten := isWritten.values directive.item (List.mem_append_right _ List.mem_cons_self)
      exact ⟨List.forall_mem_append.mpr ⟨items, List.forall_mem_singleton.mpr itemWritten⟩, mapped, ignored,
        List.forall_mem_append.mpr ⟨collected, List.forall_mem_singleton.mpr (isWritten.member _ rfl)⟩⟩
  | chooseConstructor choice =>
      rw [add] at added
      split at added
      · cases added
      · cases added
        exact ⟨items, mapped, ignored, collected⟩
  | _ =>
      cases added
      exact ⟨items, mapped, ignored, collected⟩

theorem addStatement_areWritten {host : Host} {mapper : String} {checked : Checked Configuration}
    (areWritten : checked.value.directives.AreWritten) {statement : Statement} (sound : statement.IsSound) :
    (addStatement host mapper checked statement).value.directives.AreWritten := by
  unfold addStatement
  split
  · next extended added =>
      obtain ⟨given, understood, added⟩ := (bind_ok _ _ _).mp added
      have located : (checked.value.locate statement given).directives.AreWritten := areWritten
      exact add_areWritten located (instruction_isWritten sound understood) added
  · exact areWritten

/-- Every statement of a configuration keeps the directives written. -/
theorem ofStatements_areWritten {host : Host} {mapper : String} {statements : List Statement}
    (sound : ∀ statement ∈ statements, statement.IsSound) :
    (ofStatements host mapper statements).value.directives.AreWritten := by
  refine List.foldlRecOn (motive := fun (checked : Checked Configuration) =>
    checked.value.directives.AreWritten) statements _ ⟨nofun, nofun, nofun, nofun⟩ ?_
  intro checked areWritten statement member
  exact addStatement_areWritten areWritten (sound statement member)

end Configuration

/-- What is known of the members of a trait that have been read. -/
structure Members.AreSound (host : Host) (members : Members) : Prop where
  declared : ∀ found ∈ members.method, found.1.IsNamed ∧ mappingMethod host found.1 = .ok found.2
  configuration : ∀ statement ∈ members.configuration, statement.IsSound

theorem Members.AreSound.configure {host : Host} {mapper : String} {members : Members}
    (sound : members.AreSound host) (signature : Signature) {body : List Statement}
    (bodySound : ∀ statement ∈ body, statement.IsSound) :
    (members.configure mapper signature body).AreSound host := by
  unfold Members.configure
  split
  · exact ⟨sound.declared, bodySound⟩
  · exact ⟨sound.declared, bodySound⟩

theorem Members.add_areSound {host : Host} {mapper : String} {checked : Checked Members}
    (sound : checked.value.AreSound host) {member : TraitMember} (isRead : member.IsRead) :
    (Members.add host mapper checked member).value.AreSound host := by
  cases member with
  | other => exact sound
  | function tokens signature body =>
      cases body with
      | some statements =>
          rw [Members.add]
          split
          · exact sound.configure signature (isRead.sound statements rfl)
          · exact sound
      | none =>
          simp only [Members.add]
          split
          · exact ⟨sound.declared, sound.configuration⟩
          · split
            · next method declared =>
                refine ⟨fun found isFound => ?_, sound.configuration⟩
                cases isFound
                exact ⟨isRead.named, declared⟩
            · exact sound

/-- The parts of a mapper come from the members of its trait and from its configuration, without a problem. -/
structure IsMadeOf (host : Host) (item : TraitItem) (mapper : Mapper) (members : Members)
    (configuration : Configuration) : Prop where
  read : item.members.foldl (Members.add host item.name) ⟨.none, []⟩ = ⟨members, []⟩
  configured : Configuration.ofStatements host item.name members.configuration = ⟨configuration, []⟩
  name : mapper.name = item.name
  method : members.method = some (mapper.signature, mapper.method)
  directives : mapper.directives = configuration.directives
  inclusions : mapper.inclusions = configuration.inclusions
  diagnostics : mapper.diagnostics = members.diagnostics ++ configuration.diagnostics
  locations : mapper.locations = members.locations ++ configuration.locations

theorem ofTrait_ok {host : Host} {item : TraitItem} {mapper : Mapper} (declared : ofTrait host item = .ok mapper) :
    ∃ members configuration, IsMadeOf host item mapper members configuration := by
  unfold ofTrait at declared
  split at declared
  · cases declared
  · obtain ⟨⟨found, configured⟩, collected, declared⟩ := (bind_ok _ _ _).mp declared
    obtain ⟨noProblems, same⟩ := Checked.toExcept_ok.mp collected
    obtain ⟨noneInMembers, noneInStatements⟩ := List.append_eq_nil_iff.mp noProblems
    cases same
    dsimp only at declared
    split at declared
    · cases declared
    · next signature method isFound =>
        cases declared
        exact ⟨_, _, congrArg (Checked.mk _) noneInMembers, congrArg (Checked.mk _) noneInStatements, rfl, isFound,
          rfl, rfl, rfl, rfl⟩

/-- What is known of a mapper that a source text declares. -/
structure IsSound (host : Host) (mapper : Mapper) : Prop where
  name : IsName mapper.name
  signature : mapper.signature.IsNamed
  declared : mappingMethod host mapper.signature = .ok mapper.method
  directives : mapper.directives.AreWritten

/-- The mapper that a trait declares has a name, written directives and a signature that declares its method. -/
theorem ofTrait_isSound {host : Host} {item : TraitItem} {mapper : Mapper} (isRead : (Item.trait item).IsRead)
    (declared : ofTrait host item = .ok mapper) : mapper.IsSound host := by
  obtain ⟨members, configuration, made⟩ := ofTrait_ok declared
  obtain ⟨isName, named⟩ := isRead.named
  have membersSound : (item.members.foldl (Members.add host item.name) ⟨.none, []⟩).value.AreSound host := by
    refine List.foldlRecOn (motive := fun (checked : Checked Members) => checked.value.AreSound host)
      item.members _ ⟨nofun, nofun⟩ ?_
    intro checked checkedSound member present
    exact Members.add_areSound checkedSound ⟨isRead.sound member present, named member present⟩
  rw [made.read] at membersSound
  have areWritten : (Configuration.ofStatements host item.name members.configuration).value.directives.AreWritten :=
    Configuration.ofStatements_areWritten membersSound.configuration
  rw [made.configured] at areWritten
  obtain ⟨signatureNamed, methodDeclared⟩ := membersSound.declared _ made.method
  exact ⟨made.name ▸ isName.spelt, signatureNamed, methodDeclared, made.directives ▸ areWritten⟩

namespace IsSound

variable {host : Host} {mapper : Mapper} (sound : mapper.IsSound host)
include sound

theorem method_isName : IsName mapper.method.name :=
  (mappingMethod_declares sound.declared).name ▸ sound.signature.name.spelt

theorem params_areNames : ∀ param ∈ mapper.method.params, IsName param.name := by
  intro param present
  obtain ⟨⟨pattern, type⟩, isInput, read⟩ := forall₂_right (mappingMethod_declares sound.declared).params param present
  obtain ⟨input, inSignature, isTyped⟩ := List.mem_filterMap.mp isInput
  have inputSound := sound.signature.inputs input inSignature
  cases input with
  | receiver => cases isTyped
  | typed =>
      cases isTyped
      cases pattern with
      | name tokens binder =>
          cases read
          exact inputSound
      | _ => cases read

end IsSound

end Mapper

end ObjectMapping
