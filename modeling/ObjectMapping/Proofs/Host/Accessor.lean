/-
This file proves that what is collected from the `impl` blocks of a struct is granted by them: each accessor of
a property and each constructor is a public function there, and the base is what the struct dereferences to.
-/

import ObjectMapping.Proofs.Host.Interface
import ObjectMapping.Proofs.Source.Grammar.Basic
import ObjectMapping.Proofs.Source.Rename

namespace ObjectMapping

open Source

/-- A written type that stands for a declared type is written as its name. -/
theorem TypeRef.ofWritten_named {names : TypeNames} {type : WrittenType} {id : TypeId}
    (read : ofWritten names type = .named id) : ∃ name, type.named? = some name ∧ names name = some id := by
  induction type with
  | grouped tokens inner inductionHypothesis => exact inductionHypothesis read
  | path tokens head =>
      rw [ofWritten] at read
      cases found : ofHead? names head with
      | none =>
          rw [found] at read
          cases read
      | some type =>
          rw [found] at read
          obtain rfl : type = .named id := read
          unfold ofHead? at found
          split at found
          · cases found
          · next plain =>
              split at found
              · next single =>
                  split at found
                  · cases found
                  · obtain ⟨other, isNamed, same⟩ := Option.map_eq_some_iff.mp found
                    cases same
                    refine ⟨head.last, ?_, isNamed⟩
                    simp_all [WrittenType.named?]
              · split at found <;> cases found
  | application tokens head argument =>
      unfold ofWritten at read
      split at read
      · cases read
      · split at read
        · cases read
        · split at read
          · cases read
          · split at read <;> cases read
  | reference | slice | other => cases read

/-- A getter lends its value where its result is written as a reference. -/
theorem TypeRef.ofGetter_lent {names : TypeNames} {result : WrittenType} (lent : (ofGetter names result).2 = true) :
    ∃ tokens isMutable target, result = .reference tokens isMutable target := by
  cases result with
  | reference tokens isMutable target => exact ⟨tokens, isMutable, target, rfl⟩
  | _ => cases lent

namespace Host

/-- A setter is called by the name that is made of its member. -/
theorem setterName_setMember {name member : String} (isWord : (Lexeme.word name).IsSpelt)
    (sets : setMember? name = some member) : Rendering.setterName member = name := by
  obtain rfl := setMember?_eq_some.mp sets
  have identifier := isWord.word
  have notRaw (more : List Char) (raw : member.toList = 'r' :: '#' :: more) : False := by
    rw [String.toList_append, raw] at identifier
    cases identifier with
    | plain first others start continues => exact absurd (continues '#' (by simp)) (by decide)
  have plain : Rendering.withoutRaws member.toList = member.toList := Rendering.withoutRaws.eq_2 _ notRaw
  rw [Rendering.setterName, plain, String.ofList_toList]

variable (items : List Item) (names : TypeNames) (owner : String)

/-- The struct has the function behind an access to a property. -/
def Access.IsGranted (name : String) : Access → Prop
  | .get lent => HasGetter items owner name ∧ (lent = true → HasLendingGetter items owner name)
  | .set => HasSetter items owner (Rendering.setterName name)

/-- The constructor is a public function of the struct. -/
def GrantsConstructor (constructor : Constructor) : Prop :=
  ∃ function parameters, constructor = .function function parameters ∧ HasConstructor items owner function

def AccessorRole.IsGranted : AccessorRole → Prop
  | .constructor way => GrantsConstructor items owner way
  | .property name _ access => access.IsGranted items owner name

structure Property.IsGranted (property : Property) : Prop where
  readable : property.readable = true → HasGetter items owner property.name
  settable : property.settable = true → HasSetter items owner (Rendering.setterName property.name)
  lent : property.lent = true → HasLendingGetter items owner property.name

/-- Whatever has been collected is granted by the struct. -/
structure Accessors.AreGranted (accessors : Accessors) : Prop where
  properties : ∀ property ∈ accessors.properties, property.IsGranted items owner
  constructors : ∀ constructor ∈ accessors.constructors, GrantsConstructor items owner constructor
  base : ∀ id ∈ accessors.base, ∃ target, Dereferences items owner target ∧ names target = some id

variable {items names owner}

theorem accessorRole?_isGranted {signature : Signature} (offered : Offers items owner signature)
    (sound : signature.IsSound) {role : AccessorRole} (found : accessorRole? names owner signature = some role) :
    role.IsGranted items owner := by
  cases accessorRole?_rule found with
  | constructs result noReceiver isResult own =>
      exact ⟨_, _, rfl, signature, offered, rfl, result, noReceiver, isResult, own⟩
  | gets tokens result receiver isResult noInput =>
      have isGetter : signature.IsGetter := ⟨tokens, result, receiver, noInput, isResult⟩
      refine ⟨⟨signature, offered, rfl, isGetter⟩, fun lent => ⟨signature, offered, rfl, isGetter, ?_⟩⟩
      obtain ⟨resultTokens, isMutable, target, rfl⟩ := TypeRef.ofGetter_lent lent
      exact ⟨resultTokens, isMutable, target, isResult⟩
  | sets tokens pattern type member receiver noResult input named =>
      exact ⟨signature, offered, (setterName_setMember sound named).symm, tokens, _, receiver, input, noResult⟩

theorem Property.IsGranted.grant {property : Property} (granted : property.IsGranted items owner)
    {access : Access} (accessGranted : access.IsGranted items owner property.name) :
    (property.grant access).IsGranted items owner := by
  cases access with
  | get lent => exact ⟨fun _ => accessGranted.1, granted.settable, accessGranted.2⟩
  | set => exact ⟨granted.readable, fun _ => accessGranted, granted.lent⟩

theorem addAccess_isGranted {name : String} {type : TypeRef} {access : Access}
    (accessGranted : access.IsGranted items owner name) {properties : List Property}
    (granted : ∀ property ∈ properties, property.IsGranted items owner) :
    ∀ property ∈ addAccess name type access properties, property.IsGranted items owner := by
  induction properties with
  | nil =>
      have fresh : (Property.mk name type false false false).IsGranted items owner :=
        ⟨nofun, nofun, nofun⟩
      exact List.forall_mem_singleton.mpr (fresh.grant accessGranted)
  | cons first rest inductionHypothesis =>
      obtain ⟨firstGranted, restGranted⟩ := List.forall_mem_cons.mp granted
      unfold addAccess
      split
      · next same =>
          rw [← beq_iff_eq.mp same] at accessGranted
          exact List.forall_mem_cons.mpr ⟨firstGranted.grant accessGranted, restGranted⟩
      · exact List.forall_mem_cons.mpr ⟨firstGranted, inductionHypothesis restGranted⟩

namespace Accessors

variable {accessors : Accessors}

theorem none_areGranted : none.AreGranted items names owner := ⟨nofun, nofun, nofun⟩

theorem AreGranted.add (granted : accessors.AreGranted items names owner) {role : AccessorRole}
    (roleGranted : role.IsGranted items owner) : (accessors.add role).AreGranted items names owner := by
  cases role with
  | constructor constructor =>
      refine ⟨granted.properties, ?_, granted.base⟩
      exact List.forall_mem_append.mpr ⟨granted.constructors, List.forall_mem_singleton.mpr roleGranted⟩
  | property name type access =>
      exact ⟨addAccess_isGranted roleGranted granted.properties, granted.constructors, granted.base⟩

theorem AreGranted.addMember (granted : accessors.AreGranted items names owner) {block : ImplItem}
    (isBlock : .impl block ∈ items) (ofOwner : implOwner? block = some owner) (noTrait : block.trait = .none)
    {member : ImplMember} (isMember : member ∈ block.members) (sound : member.IsSound) :
    (addMember names owner accessors member).AreGranted items names owner := by
  unfold Accessors.addMember
  split
  · next signature =>
      split
      · exact granted
      · next notGeneric =>
          split
          · next role found =>
              refine granted.add (accessorRole?_isGranted ?_ sound found)
              exact ⟨block, isBlock, ofOwner, noTrait, isMember, Bool.eq_false_iff.mpr notGeneric⟩
          · exact granted
  · exact granted

/-- The base is the type that the block names as the target. -/
theorem targetBase?_some {members : List ImplMember} {id : TypeId} (found : targetBase? names members = some id) :
    ∃ type target, .type "Target" type ∈ members ∧ type.named? = some target ∧ names target = some id := by
  unfold targetBase? at found
  dsimp only at found
  split at found
  · next other isTarget =>
      cases found
      obtain ⟨type, isFirst, read⟩ := Option.map_eq_some_iff.mp isTarget
      obtain ⟨member, isMember, isType⟩ := List.exists_of_findSome?_eq_some isFirst
      obtain ⟨target, written, named⟩ := TypeRef.ofWritten_named read
      split at isType
      · cases isType
        exact ⟨type, target, isMember, written, named⟩
      · cases isType
  · cases found

theorem AreGranted.addImpl (granted : accessors.AreGranted items names owner) {block : ImplItem}
    (isBlock : .impl block ∈ items) (ofOwner : implOwner? block = some owner)
    (sound : ∀ member ∈ block.members, member.IsSound) :
    (addImpl names owner accessors block).AreGranted items names owner := by
  unfold Accessors.addImpl
  split
  · next noTrait =>
      refine List.foldlRecOn (motive := fun (all : Accessors) => all.AreGranted items names owner) block.members _
        granted ?_
      intro all allGranted member isMember
      exact allGranted.addMember isBlock ofOwner noTrait isMember (sound member isMember)
  · next dereferences =>
      refine ⟨granted.properties, granted.constructors, fun id isBase => ?_⟩
      obtain ⟨type, target, isTarget, written, named⟩ := targetBase?_some isBase
      exact ⟨target, ⟨block, type, isBlock, ofOwner, dereferences, isTarget, written⟩, named⟩
  · exact granted

end Accessors

/-- What the `impl` blocks among the items give access to is granted by them. -/
theorem accessorsOf_areGranted (sound : ∀ item ∈ items, item.IsSound) (names : TypeNames) (owner : String) :
    (accessorsOf names items owner).AreGranted items names owner := by
  refine List.foldlRecOn (motive := fun (all : Accessors) => all.AreGranted items names owner) items _
    Accessors.none_areGranted ?_
  intro all granted item isItem
  split
  · next block =>
      split
      · next ofOwner => exact granted.addImpl isItem (beq_iff_eq.mp ofOwner) (sound _ isItem)
      · exact granted
  · exact granted

end Host

end ObjectMapping
