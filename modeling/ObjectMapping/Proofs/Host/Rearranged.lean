/-
This file compares what is read of a struct with what is read of it where the functions in its `impl` blocks stand in
another order. The members are the same up to their order; only the type of a property depends on which of its
accessors comes first, where these are written with different types.
-/

import Mathlib.Data.List.Perm.Basic
import ObjectMapping.Proofs.Host.OwnMembers
import ObjectMapping.Proofs.Host.Unplaced

namespace ObjectMapping

open Source

namespace Source.Item

/-- What an item says apart from the places of its tokens and from what it holds of a struct itself. Traits and other
items say nothing of declared types. -/
def frame? : Item → Option Item
  | .struct item => some (.struct item.unplaced)
  | .enum item => some (.enum item)
  | .impl block => some (.impl { block.unplaced with
      members := if block.trait == none then [] else block.members.map (·.unplaced) })
  | .trait _ => none
  | .other => none

end Source.Item

/-- A result that is written as a reference is lent. -/
theorem TypeRef.ofGetter_reference (names : TypeNames) (tokens : List Token) (isMutable : Bool) (target : WrittenType) :
    (ofGetter names (.reference tokens isMutable target)).2 = true := by
  rw [ofGetter]
  split <;> rfl

/-- Where all items are the same, it is the same one that comes last. -/
theorem getLast?_perm {α : Type} {items others : List α} (rearranged : items.Perm others)
    (alike : ∀ first ∈ items, ∀ second ∈ items, first = second) : others.getLast? = items.getLast? := by
  cases isLast : others.getLast? with
  | none =>
      rw [List.getLast?_eq_none_iff] at isLast
      subst isLast
      rw [rearranged.eq_nil, List.getLast?_nil]
  | some last =>
      have isItem := rearranged.mem_iff.mpr (List.mem_of_getLast? isLast)
      have isFound := List.getLast?_isSome.mpr (List.ne_nil_of_mem isItem)
      obtain ⟨other, isOther⟩ := Option.isSome_iff_exists.mp isFound
      rw [isOther, alike other (List.mem_of_getLast? isOther) last isItem]

namespace Host

/-- The items differ in the places of their tokens, and in the order of what the `impl` blocks of each struct hold. -/
structure Rearranges (items others : List Item) : Prop where
  frames : items.filterMap (·.frame?) = others.filterMap (·.frame?)
  inherent : ∀ owner, ((inherent items owner).map (·.unplaced)).Perm ((inherent others owner).map (·.unplaced))

theorem Rearranges.symm {items others : List Item} (rearranges : Rearranges items others) : Rearranges others items :=
  ⟨rearranges.frames.symm, fun owner => (rearranges.inherent owner).symm⟩

/-- A declaration apart from the places of its tokens. -/
def Declaration.unplaced : Declaration → Declaration
  | .struct name fields => .struct name (fields.map (·.unplaced))
  | .enum name variants => .enum name variants

theorem Declaration.ofItem?_frame (item : Item) :
    item.frame?.bind Declaration.ofItem? = (Declaration.ofItem? item).map (·.unplaced) := by
  cases item with
  | struct item =>
      obtain ⟨name, isGeneric, fields⟩ := item
      cases isGeneric <;> cases fields <;> rfl
  | «enum» item =>
      unfold Item.frame? ofItem?
      rw [Option.bind_some]
      dsimp only
      split <;> rfl
  | impl | trait | other => rfl

theorem declarations_frame (items : List Item) : (items.filterMap (·.frame?)).filterMap Declaration.ofItem? =
    (items.filterMap Declaration.ofItem?).map (·.unplaced) := by
  rw [List.filterMap_filterMap, List.map_filterMap]
  exact List.filterMap_congr fun item _ => Declaration.ofItem?_frame item

/-- The base that an item gives to a struct, if it is there for that. -/
def baseGiven? (names : TypeNames) (owner : String) : Item → Option (Option TypeId)
  | .impl block =>
      if implOwner? block == some owner && block.trait == some "Deref" then
        some (Accessors.targetBase? names block.members)
      else
        none
  | _ => none

variable {names : TypeNames} {owner : String}

theorem Accessors.foldl_add_base (roles : List AccessorRole) (accessors : Accessors) :
    (roles.foldl add accessors).base = accessors.base := by
  induction roles generalizing accessors with
  | nil => rfl
  | cons role rest inductionHypothesis =>
      rw [List.foldl_cons, inductionHypothesis]
      cases role <;> rfl

/-- The base that an `impl` block of the struct leaves. -/
theorem Accessors.addImpl_base (accessors : Accessors) {block : ImplItem}
    (ofOwner : (implOwner? block == some owner) = true) :
    (accessors.addImpl names owner block).base = (baseGiven? names owner (.impl block)).getD accessors.base := by
  unfold addImpl baseGiven?
  dsimp only
  rw [ofOwner, Bool.true_and]
  split
  · next noTrait =>
      rw [noTrait, foldl_addMember, foldl_add_base]
      rfl
  · next dereferences =>
      rw [dereferences]
      rfl
  · next name notDeref isTrait =>
      have isOther : ¬(block.trait == some "Deref") = true := by simpa [isTrait] using notDeref
      rw [if_neg isOther]
      rfl

/-- Of several blocks for dereferencing it is the last that counts. -/
theorem accessorsOf_base {items : List Item} :
    (accessorsOf names items owner).base = ((items.filterMap (baseGiven? names owner)).getLast?).getD none := by
  have collected (accessors : Accessors) : (items.foldl (fun accessors item =>
      match item with
      | .impl block =>
          if implOwner? block == some owner then accessors.addImpl names owner block else accessors
      | _ => accessors) accessors).base =
      ((items.filterMap (baseGiven? names owner)).getLast?).getD accessors.base := by
    induction items generalizing accessors with
    | nil => rfl
    | cons item rest inductionHypothesis =>
        have given : (match item with
            | .impl block =>
                if implOwner? block == some owner then accessors.addImpl names owner block else accessors
            | _ => accessors).base = (baseGiven? names owner item).getD accessors.base := by
          cases item with
          | impl block =>
              dsimp only
              split
              · next ofOwner => exact accessors.addImpl_base ofOwner
              · next ofOther =>
                  rw [baseGiven?, if_neg (by simp [ofOther])]
                  rfl
          | struct | «enum» | trait | other => rfl
        rw [List.foldl_cons, inductionHypothesis, given, List.filterMap_cons]
        cases baseGiven? names owner item with
        | none => rfl
        | some base => rw [List.getLast?_cons, Option.getD_some, Option.getD_some]
  exact collected .none

theorem targetBase?_unplaced (members : List ImplMember) :
    Accessors.targetBase? names (members.map (·.unplaced)) = Accessors.targetBase? names members := by
  unfold Accessors.targetBase?
  dsimp only
  rw [List.findSome?_map, List.map_findSome?, List.map_findSome?]
  congr 2
  funext member
  cases member with
  | type name written =>
      by_cases isTarget : name = "Target"
      · subst isTarget
        exact congrArg some (TypeRef.ofWritten_unplaced names written)
      · simp [ImplMember.unplaced, isTarget]
  | function | other => rfl

theorem baseGiven?_frame (item : Item) : item.frame?.bind (baseGiven? names owner) = baseGiven? names owner item := by
  cases item with
  | impl block =>
      have sameOwner (members : List ImplMember) :
          implOwner? { block.unplaced with members := members } = implOwner? block := by
        simp only [implOwner?, ImplItem.unplaced, WrittenType.ident?_unplaced]
      rw [Item.frame?, Option.bind_some, baseGiven?, baseGiven?, sameOwner]
      by_cases dereferences : block.trait = some "Deref"
      · simp only [ImplItem.unplaced, dereferences, targetBase?_unplaced, reduceCtorEq, beq_iff_eq, if_false]
      · simp [ImplItem.unplaced, dereferences]
  | struct | «enum» | trait | other => rfl

namespace Rearranges

variable {items others : List Item} (rearranges : Rearranges items others)

include rearranges

theorem sameDeclarations : (items.filterMap Declaration.ofItem?).map (·.unplaced) =
    (others.filterMap Declaration.ofItem?).map (·.unplaced) := by
  rw [← declarations_frame, ← declarations_frame, rearranges.frames]

theorem sameBase : (accessorsOf names items owner).base = (accessorsOf names others owner).base := by
  have framed (all : List Item) :
      all.filterMap (baseGiven? names owner) = (all.filterMap (·.frame?)).filterMap (baseGiven? names owner) := by
    rw [List.filterMap_filterMap]
    exact List.filterMap_congr fun item _ => (baseGiven?_frame item).symm
  rw [accessorsOf_base, accessorsOf_base, framed items, framed others, rearranges.frames]

theorem roles_perm : (roles names items owner).Perm (roles names others owner) := by
  have unplaced (all : List Item) : Host.roles names all owner =
      (((Host.inherent all owner).map (·.unplaced)).filterMap (·.offered?)).filterMap (accessorRole? names owner) := by
    rw [Host.roles, offered, List.filterMap_map, List.filterMap_filterMap, List.filterMap_filterMap]
    refine List.filterMap_congr fun member _ => ?_
    rw [Function.comp_apply, offered?_unplaced, Option.bind_map]
    congr 1
    funext signature
    exact (accessorRole?_unplaced names owner signature).symm
  rw [unplaced items, unplaced others]
  exact ((rearranges.inherent owner).filterMap _).filterMap _

theorem grants_perm (names : TypeNames) (owner : String) :
    (grants names items owner).Perm (grants names others owner) :=
  rearranges.roles_perm.filterMap _

theorem sameNames {host other : Host} (read : ofItems items = .ok host) (otherRead : ofItems others = .ok other) :
    host.names = other.names := by
  have named (all : List Item) : (all.filterMap Declaration.ofItem?).map (·.name) =
      ((all.filterMap Declaration.ofItem?).map (·.unplaced)).map (·.name) := by
    rw [List.map_map]
    refine List.map_congr_left fun declaration _ => ?_
    cases declaration <;> rfl
  obtain ⟨entries, built, _⟩ := ofItems_entries read
  obtain ⟨otherEntries, otherBuilt, _⟩ := ofItems_entries otherRead
  rw [← collectingSteps_typeId? built, ← collectingSteps_typeId? otherBuilt]
  funext name
  rw [SchemaDraft.typeId?_names, SchemaDraft.typeId?_names, collectingSteps_names, collectingSteps_names,
    named items, named others, rearranges.sameDeclarations]

/-- A struct is declared among the others with the same fields. -/
theorem declares {owner : String} {fields : List Field} (declared : DeclaresStruct items owner fields) :
    ∃ otherFields, DeclaresStruct others owner otherFields ∧
      otherFields.map (·.unplaced) = fields.map (·.unplaced) := by
  have present := List.mem_map_of_mem (f := (·.unplaced)) (mem_declarations.mpr declared)
  rw [rearranges.sameDeclarations] at present
  obtain ⟨declaration, isDeclared, same⟩ := List.mem_map.mp present
  cases declaration with
  | struct name otherFields =>
      obtain ⟨rfl, sameFields⟩ := Declaration.struct.inj same
      exact ⟨otherFields, mem_declarations.mp isDeclared, sameFields⟩
  | «enum» => cases same

end Rearranges

section

variable (names : TypeNames) (items : List Item) (owner : String)

/-- All accessors of the name read as one type. -/
def HasOneType (name : String) : Prop := ∀ first ∈ grants names items owner, ∀ second ∈ grants names items owner,
  first.name = name → second.name = name → first.type = second.type

/-- The getters of the name all give references, or none of them does. -/
def LendsAlike (name : String) : Prop := ∀ first second, Offers items owner first → Offers items owner second →
  first.name = name → second.name = name → first.IsGetter → second.IsGetter →
    (first.GivesReference ↔ second.GivesReference)

end

/-- Nothing is different about the properties, apart from types and borrows that not all accessors agree on. -/
structure Property.AgreesWith (oneType lendsAlike : Prop) (property other : Property) : Prop where
  name : other.name = property.name
  readable : other.readable = property.readable
  settable : other.settable = property.settable
  type : oneType → other.type = property.type
  lent : lendsAlike → other.lent = property.lent

/-- What a function says about the borrow of a property: nothing, unless it is a getter of the name. -/
def lends? (names : TypeNames) (owner name : String) (signature : Signature) : Option Bool :=
  ((accessorRole? names owner signature).bind (·.grant?)).bind (·.lends? name)

/-- A getter of the name tells whether the value is lent. -/
theorem lends?_eq_some {name : String} {signature : Signature} {lent : Bool} :
    lends? names owner name signature = some lent ↔
      signature.name = name ∧ signature.IsGetter ∧ (lent = true ↔ signature.GivesReference) := by
  have ofGetter {tokens : List Token} {result : WrittenType} (isResult : signature.result = some result)
      (receiver : signature.receiver? = some (.receiver tokens true false)) (none : typedInputs signature = []) :
      lends? names owner signature.name signature = some (TypeRef.ofGetter names result).2 ∧
        ((TypeRef.ofGetter names result).2 = true ↔ signature.GivesReference) := by
    have found : (accessorRole? names owner signature).bind (·.grant?) = some _ :=
      accessorRole?_grant.mpr (.inl ⟨tokens, result, receiver, none, isResult, rfl⟩)
    refine ⟨Option.bind_eq_some_iff.mpr ⟨_, found, Grant.lends?_eq_some.mpr ⟨rfl, rfl⟩⟩, ?_, ?_⟩
    · intro isLent
      obtain ⟨resultTokens, isMutable, target, rfl⟩ := TypeRef.ofGetter_lent isLent
      exact ⟨resultTokens, isMutable, target, isResult⟩
    · rintro ⟨resultTokens, isMutable, target, isReference⟩
      rw [isResult] at isReference
      cases isReference
      exact TypeRef.ofGetter_reference names resultTokens isMutable target
  constructor
  · intro lends
    obtain ⟨grant, found, ofGrant⟩ := Option.bind_eq_some_iff.mp lends
    obtain ⟨rfl, isGet⟩ := Grant.lends?_eq_some.mp ofGrant
    obtain ⟨tokens, result, receiver, none, isResult, rfl⟩ | ⟨_, _, _, _, _, _, _, _, isSet⟩ :=
      accessorRole?_grant.mp found
    · obtain ⟨isLent, gives⟩ := ofGetter isResult receiver none
      cases Option.some.inj (lends.symm.trans isLent)
      exact ⟨rfl, ⟨tokens, result, receiver, none, isResult⟩, gives⟩
    · rw [isGet] at isSet
      cases isSet
  · rintro ⟨rfl, ⟨tokens, result, receiver, none, isResult⟩, isLent⟩
    obtain ⟨lends, gives⟩ := ofGetter isResult receiver none
    rw [lends, Option.some.injEq, Bool.eq_iff_iff, gives, isLent]

theorem grants_lends (name : String) : (grants names items owner).filterMap (·.lends? name) =
    (offered items owner).filterMap (lends? names owner name) := by
  rw [grants, roles, List.filterMap_filterMap, List.filterMap_filterMap]
  exact List.filterMap_congr fun signature _ => (Option.bind_assoc _ _ _).symm

theorem mem_lends {items : List Item} {name : String} {lent : Bool}
    (present : lent ∈ (grants names items owner).filterMap (·.lends? name)) :
    ∃ signature, Offers items owner signature ∧
      signature.name = name ∧ signature.IsGetter ∧ (lent = true ↔ signature.GivesReference) := by
  rw [grants_lends] at present
  obtain ⟨signature, isOffered, lends⟩ := List.mem_filterMap.mp present
  exact ⟨signature, mem_offered.mp isOffered, lends?_eq_some.mp lends⟩

theorem Rearranges.agree {items others : List Item} (rearranges : Rearranges items others) {property other : Property}
    (present : property ∈ (accessorsOf names items owner).properties)
    (otherPresent : other ∈ (accessorsOf names others owner).properties) (named : other.name = property.name) :
    property.AgreesWith (HasOneType names items owner property.name) (LendsAlike items owner property.name) other := by
  have made := accessorsOf_isMadeOf property present
  have otherMade := accessorsOf_isMadeOf other otherPresent
  have granted := rearranges.grants_perm names owner
  have lends := granted.filterMap (·.lends? property.name)
  refine ⟨named, ?readable, ?settable, fun oneType => ?type, fun lendsAlike => ?lent⟩
  case readable => rw [made.readable, otherMade.readable, named, lends.isEmpty_eq]
  case settable => rw [made.settable, otherMade.settable, named, granted.any_eq]
  case type =>
    obtain ⟨first, isFirst, firstType⟩ := Option.map_eq_some_iff.mp made.type
    obtain ⟨second, isSecond, secondType⟩ := Option.map_eq_some_iff.mp otherMade.type
    have firstNamed := List.find?_some isFirst
    have secondNamed := List.find?_some isSecond
    rw [← firstType, ← secondType]
    refine oneType _ (granted.mem_iff.mpr (List.mem_of_find?_eq_some isSecond)) _ (List.mem_of_find?_eq_some isFirst)
      ?_ (beq_iff_eq.mp firstNamed)
    exact (beq_iff_eq.mp secondNamed).trans named
  case lent =>
    rw [made.lent, otherMade.lent, named]
    refine congrArg (Option.getD · false) (getLast?_perm lends fun first isFirst second isSecond => ?_)
    obtain ⟨getter, offered, isNamed, isGetter, isLent⟩ := mem_lends isFirst
    obtain ⟨other, otherOffered, otherNamed, isOther, otherLent⟩ := mem_lends isSecond
    rw [Bool.eq_iff_iff, isLent, otherLent]
    exact lendsAlike getter other offered otherOffered isNamed otherNamed isGetter isOther

/-- Nothing is different about the members, apart from the type of a property whose accessors do not agree on it. -/
structure MemberAgrees (oneType : Prop) (spec other : MemberSpec) : Prop where
  name : other.name = spec.name
  kind : other.kind = spec.kind
  readable : other.readable = spec.readable
  settable : other.settable = spec.settable
  required : other.required = spec.required
  system : other.system = spec.system
  type : spec.kind = .field ∨ oneType → other.type = spec.type

theorem Property.AgreesWith.member {oneType lendsAlike : Prop} {property other : Property}
    (agrees : property.AgreesWith oneType lendsAlike other) (required : Bool) :
    MemberAgrees oneType (property.member required) (other.member required) :=
  ⟨agrees.name, rfl, agrees.readable, agrees.settable, rfl, rfl,
    fun condition => agrees.type (condition.resolve_left nofun)⟩

theorem MemberAgrees.refl (oneType : Prop) (spec : MemberSpec) : MemberAgrees oneType spec spec :=
  ⟨rfl, rfl, rfl, rfl, rfl, rfl, fun _ => rfl⟩

section

variable {items others : List Item} (rearranges : Rearranges items others)

include rearranges

theorem Rearranges.accessedNames_perm (owner : String) :
    (accessedNames items owner).Perm (accessedNames others owner) := by
  have named := (rearranges.grants_perm (fun _ => none) owner).map (·.name)
  rw [grants_names, grants_names] at named
  refine (List.perm_ext_iff_of_nodup (eraseDups_nodup _) (eraseDups_nodup _)).mpr fun name => ?_
  rw [List.mem_eraseDups, List.mem_eraseDups]
  exact named.mem_iff

theorem Rearranges.property {property : Property} (present : property ∈ (accessorsOf names items owner).properties) :
    ∃ other ∈ (accessorsOf names others owner).properties, other.name = property.name := by
  have isAccessed : property.name ∈ accessedNames others owner := by
    refine (rearranges.accessedNames_perm owner).mem_iff.mp ?_
    rw [← accessorsOf_names names]
    exact List.mem_map_of_mem present
  rw [← accessorsOf_names names] at isAccessed
  exact List.mem_map.mp isAccessed

theorem Rearranges.find? {name : String} {property : Property}
    (found : (accessorsOf names items owner).properties.find? (fun property => property.name == name) = some property) :
    ∃ other, (accessorsOf names others owner).properties.find? (fun property => property.name == name) = some other ∧
      property.AgreesWith (HasOneType names items owner name) (LendsAlike items owner name) other := by
  have named := List.find?_some found
  obtain rfl := beq_iff_eq.mp named
  have present := List.mem_of_find?_eq_some found
  obtain ⟨other, otherPresent, same⟩ := rearranges.property present
  have distinct : ((accessorsOf names others owner).properties.map (·.name)).Nodup :=
    accessorsOf_names names others owner ▸ eraseDups_nodup _
  exact ⟨other, same ▸ find?_named distinct otherPresent, rearranges.agree present otherPresent same⟩

/-- A property is lent or not where the getters of its name do not differ in this. -/
theorem Rearranges.lends_iff {name : String} (lendsAlike : LendsAlike items owner name) :
    (∃ property ∈ (accessorsOf names others owner).properties, property.lent = true ∧ property.name = name) ↔
      ∃ property ∈ (accessorsOf names items owner).properties, property.lent = true ∧ property.name = name := by
  constructor
  · rintro ⟨other, otherPresent, lends, rfl⟩
    obtain ⟨property, present, same⟩ := rearranges.symm.property otherPresent
    have agrees := rearranges.agree present otherPresent same.symm
    exact ⟨property, present, (agrees.lent (same ▸ lendsAlike)).symm.trans lends, same⟩
  · rintro ⟨property, present, lends, rfl⟩
    obtain ⟨other, otherPresent, same⟩ := rearranges.property present
    have agrees := rearranges.agree present otherPresent same
    exact ⟨other, otherPresent, (agrees.lent lendsAlike).trans lends, same⟩

/-- At the place of a field there stands the same member. -/
theorem Rearranges.standIn_agrees (member : MemberSpec) :
    MemberAgrees (HasOneType names items owner member.name)
      (standIn (accessorsOf names items owner).properties member)
      (standIn (accessorsOf names others owner).properties member) := by
  cases found : (accessorsOf names items owner).properties.find? fun property => property.name == member.name with
  | some property =>
      obtain ⟨other, otherFound, agrees⟩ := rearranges.find? found
      rw [standIn, found, standIn, otherFound]
      dsimp only
      split
      · exact .refl _ member
      · exact agrees.member member.required
  | none =>
      cases otherFound :
          (accessorsOf names others owner).properties.find? fun property => property.name == member.name with
      | some other =>
          obtain ⟨property, isFound, _⟩ := rearranges.symm.find? otherFound
          rw [found] at isFound
          cases isFound
      | none =>
          rw [standIn, found, standIn, otherFound]
          exact .refl _ member

/-- Behind the fields there stand the same properties in some order. -/
theorem Rearranges.further_agree (names : TypeNames) (owner : String) (members : List MemberSpec) : ∃ arranged,
    arranged.Perm (furtherProperties (accessorsOf names others owner).properties members) ∧
      List.Forall₂ (fun property other => property.AgreesWith (HasOneType names items owner property.name)
        (LendsAlike items owner property.name) other)
          (furtherProperties (accessorsOf names items owner).properties members) arranged := by
  have named (all : List Item) : (furtherProperties (accessorsOf names all owner).properties members).map (·.name) =
      (accessedNames all owner).filter (· ∉ members.map (·.name)) := by
    rw [furtherProperties, ← accessorsOf_names names, List.filter_map]
    rfl
  have rearranged : ((furtherProperties (accessorsOf names items owner).properties members).map (·.name)).Perm
      ((furtherProperties (accessorsOf names others owner).properties members).map (·.name)) := by
    rw [named items, named others]
    exact (rearranges.accessedNames_perm owner).filter _
  have ownNames : List.Forall₂ (fun name property => Property.name property = name)
      ((furtherProperties (accessorsOf names others owner).properties members).map (·.name))
        (furtherProperties (accessorsOf names others owner).properties members) :=
    List.forall₂_map_left_iff.mpr (List.forall₂_same.mpr fun _ _ => rfl)
  obtain ⟨arranged, pairs, isArranged⟩ := List.perm_comp_forall₂ rearranged ownNames
  rw [List.forall₂_map_left_iff] at pairs
  have further : ∀ other ∈ arranged, other ∈ (accessorsOf names others owner).properties :=
    fun other present => List.mem_of_mem_filter (isArranged.mem_iff.mp present)
  have found := (List.forall₂_and_left _ _).mpr ⟨further, pairs.flip⟩
  refine ⟨arranged, isArranged, ((List.forall₂_and_left _ _).mpr ⟨fun _ => List.mem_of_mem_filter, found.flip⟩).imp ?_⟩
  rintro property other ⟨present, otherPresent, named⟩
  exact rearranges.agree present otherPresent named

/-- The definitions of a struct agree member by member, in some order. -/
theorem Rearranges.members_agree {fields otherFields : List Field} {body other : StructDefinition}
    (alike : otherFields.map (·.unplaced) = fields.map (·.unplaced))
    (made : structDefinition names (accessorsOf names items owner) fields = .ok body)
    (otherMade : structDefinition names (accessorsOf names others owner) otherFields = .ok other)
    (distinct : (body.members.map (·.name)).Nodup) (otherDistinct : (other.members.map (·.name)).Nodup) :
    ∃ arranged, arranged.Perm other.members ∧ List.Forall₂
      (fun spec same => MemberAgrees (HasOneType names items owner spec.name) spec same) body.members arranged := by
  obtain ⟨members, isRead, _, merged⟩ := structDefinition_members made distinct
  obtain ⟨otherMembers, otherRead, _, otherMerged⟩ := structDefinition_members otherMade otherDistinct
  rw [← rearranges.sameBase] at otherRead
  obtain rfl := fieldMembers_unplaced names alike otherRead isRead
  obtain ⟨arranged, isArranged, agree⟩ := rearranges.further_agree names owner otherMembers
  refine ⟨otherMembers.map (standIn (accessorsOf names others owner).properties) ++
    arranged.map (·.member false), ?_, ?_⟩
  · rw [otherMerged]
    exact (isArranged.map _).append_left _
  · rw [merged]
    refine List.rel_append ?_ ?_
    · rw [List.forall₂_map_left_iff, List.forall₂_map_right_iff, List.forall₂_same]
      intro member _
      rw [standIn_name]
      exact rearranges.standIn_agrees member
    · rw [List.forall₂_map_left_iff, List.forall₂_map_right_iff]
      exact agree.imp fun property same agrees => agrees.member false

end

/-- Where the functions in the `impl` blocks of structs are put into another order, each struct keeps its members up to
their order. The type of a property is kept if its accessors read as one type, and its getter still lends it, or not,
unless there are several getters that differ in this. -/
theorem ofItems_rearranged {items others : List Item} (rearranges : Rearranges items others) {host other : Host}
    (read : ofItems items = .ok host) (otherRead : ofItems others = .ok other) {owner : String} {fields : List Field}
    (declared : DeclaresStruct items owner fields) : ∃ id type otherType,
      host.HoldsStruct owner id type ∧ other.HoldsStruct owner id otherType ∧
        ∃ arranged, arranged.Perm otherType.ownSpecs ∧ List.Forall₂ (fun spec same =>
          MemberAgrees (HasOneType host.names items owner spec.name) spec same ∧
            (LendsAlike items owner spec.name → other.isLent id spec.name = host.isLent id spec.name))
              type.ownSpecs arranged := by
  obtain ⟨otherFields, otherDeclared, alike⟩ := rearranges.declares declared
  obtain ⟨draft, drafted⟩ := ofItems_isDrafted read
  obtain ⟨otherDraft, otherDrafted⟩ := ofItems_isDrafted otherRead
  obtain ⟨id, body, isDefined⟩ := drafted.structs owner fields declared
  obtain ⟨otherId, otherBody, otherDefined⟩ := otherDrafted.structs owner otherFields otherDeclared
  have sameNames := rearranges.sameNames read otherRead
  obtain rfl : id = otherId := Option.some.inj (isDefined.named.symm.trans (sameNames ▸ otherDefined.named))
  obtain ⟨type, holds, own, _⟩ := isDefined.holds drafted.built
  obtain ⟨otherType, otherHolds, otherOwn, _⟩ := otherDefined.holds otherDrafted.built
  have otherMade := otherDefined.made
  rw [← sameNames] at otherMade
  obtain ⟨arranged, isArranged, agree⟩ := rearranges.members_agree alike isDefined.made otherMade
    (isDefined.own_distinct drafted.built) (otherDefined.own_distinct otherDrafted.built)
  refine ⟨id, type, otherType, holds, otherHolds, arranged, otherOwn ▸ isArranged, ?_⟩
  rw [own]
  have isOwn : ∀ spec ∈ body.members, spec.name ∈ body.members.map (·.name) := fun _ => List.mem_map_of_mem
  have isOther : ∀ same ∈ arranged, same.name ∈ otherBody.members.map (·.name) :=
    fun same present => List.mem_map_of_mem (isArranged.mem_iff.mp present)
  have agree := ((List.forall₂_and_left _ _).mpr ⟨isOther, agree.flip⟩).flip
  refine ((List.forall₂_and_left _ _).mpr ⟨isOwn, agree⟩).imp ?_
  rintro spec same ⟨specOwn, sameOwn, agrees⟩
  refine ⟨agrees, fun lendsAlike => ?_⟩
  rw [agrees.name] at sameOwn
  rw [Bool.eq_iff_iff, isDefined.isLent_own drafted specOwn, otherDefined.isLent_own otherDrafted sameOwn, ← sameNames]
  exact rearranges.lends_iff lendsAlike

/-- The item with what it holds of a struct itself in the opposite order. -/
def reversed : Item → Item
  | .impl block => .impl (if block.trait == none then { block with members := block.members.reverse } else block)
  | item => item

theorem reversed_frame (item : Item) : (reversed item).frame? = item.frame? := by
  cases item with
  | impl block =>
      obtain ⟨isGeneric, owner, trait, members⟩ := block
      cases trait <;> rfl
  | struct | «enum» | trait | other => rfl

theorem reversed_inherent (item : Item) (owner : String) :
    (reversed item).inherent owner = (item.inherent owner).reverse := by
  cases item with
  | impl block =>
      obtain ⟨isGeneric, holder, trait, members⟩ := block
      have sameOwner (others : List ImplMember) : implOwner? ⟨isGeneric, holder, trait, others⟩ =
          implOwner? ⟨isGeneric, holder, trait, members⟩ := rfl
      cases trait with
      | none =>
          simp only [reversed, Item.inherent, BEq.rfl, if_true, sameOwner]
          split <;> rfl
      | some name => simp [reversed, Item.inherent]
  | struct | «enum» | trait | other => rfl

theorem reversed_rearranges (items : List Item) : Rearranges items (items.map reversed) := by
  refine ⟨?_, fun owner => List.Perm.map _ ?_⟩
  · rw [List.filterMap_map]
    exact List.filterMap_congr fun item _ => (reversed_frame item).symm
  · rw [Host.inherent, Host.inherent, List.flatMap_map]
    induction items with
    | nil => exact .nil
    | cons item rest inductionHypothesis =>
        rw [List.flatMap_cons, List.flatMap_cons, reversed_inherent]
        exact (List.reverse_perm _).symm.append inductionHypothesis

/-- The own members of a struct with their types, and whether they are lent. -/
def readings (host : Host) (owner : String) : Option (List (String × TypeRef × Bool)) :=
  (host.names owner).bind fun id => ((host.schema.get? id).bind (·.struct?)).map fun type =>
    type.ownSpecs.map fun spec => (spec.name, spec.type, host.isLent id spec.name)

/-- A text with a row is accepted with the functions in either order, and the members of the row read in these ways. -/
structure ReadsRow (text : String) (members reversedMembers : List (String × TypeRef × Bool)) (file : SourceFile)
    (host other : Host) : Prop where
  parsed : SourceFile.ofText text = .ok file
  read : ofItems (file.items.map (·.item)) = .ok host
  otherRead : ofItems ((file.items.map (·.item)).map reversed) = .ok other
  declared : ∃ fields, DeclaresStruct (file.items.map (·.item)) "Row" fields
  readings : host.readings "Row" = some members
  otherReadings : other.readings "Row" = some reversedMembers

def readsRow (text : String) (members reversedMembers : List (String × TypeRef × Bool)) : Bool :=
  passes (fun file => (declaredFields? (file.items.map (·.item)) "Row").isSome &&
    (passes (fun host => decide (host.readings "Row" = some members)) (ofItems (file.items.map (·.item))) &&
      passes (fun other => decide (other.readings "Row" = some reversedMembers))
        (ofItems ((file.items.map (·.item)).map reversed)))) (SourceFile.ofText text)

theorem readsRow_exists {text : String} {members reversedMembers : List (String × TypeRef × Bool)}
    (found : readsRow text members reversedMembers = true) :
    ∃ file host other, ReadsRow text members reversedMembers file host other := by
  obtain ⟨file, parsed, found⟩ := passes_iff.mp found
  obtain ⟨isDeclared, found⟩ := Bool.and_eq_true_iff.mp found
  obtain ⟨read, otherRead⟩ := Bool.and_eq_true_iff.mp found
  obtain ⟨fields, areFields⟩ := Option.isSome_iff_exists.mp isDeclared
  obtain ⟨host, read, readings⟩ := passes_iff.mp read
  obtain ⟨other, otherRead, otherReadings⟩ := passes_iff.mp otherRead
  exact ⟨file, host, other, parsed, read, otherRead, ⟨fields, declaredFields?_some areFields⟩,
    of_decide_eq_true readings, of_decide_eq_true otherReadings⟩

/-- Both readings are of the type that the row has in its host. -/
theorem ReadsRow.holds {text : String} {members reversedMembers : List (String × TypeRef × Bool)} {file : SourceFile}
    {host other : Host} (reads : ReadsRow text members reversedMembers file host other) : ∃ id type otherType,
      host.HoldsStruct "Row" id type ∧ other.HoldsStruct "Row" id otherType ∧
        type.ownSpecs.map (fun spec => (spec.name, spec.type, host.isLent id spec.name)) = members ∧
          otherType.ownSpecs.map (fun spec => (spec.name, spec.type, other.isLent id spec.name)) = reversedMembers := by
  obtain ⟨id, isNamed, found⟩ := Option.bind_eq_some_iff.mp reads.readings
  obtain ⟨type, isType, ofType⟩ := Option.map_eq_some_iff.mp found
  obtain ⟨otherId, otherNamed, otherFound⟩ := Option.bind_eq_some_iff.mp reads.otherReadings
  obtain ⟨otherType, isOther, ofOther⟩ := Option.map_eq_some_iff.mp otherFound
  have sameNames := (reversed_rearranges _).sameNames reads.read reads.otherRead
  obtain rfl : id = otherId := Option.some.inj (isNamed.symm.trans (sameNames ▸ otherNamed))
  exact ⟨id, type, otherType, ⟨isNamed, isType⟩, ⟨otherNamed, isOther⟩, ofType, ofOther⟩

/-- A row with the given functions. -/
def rowText (functions : String) : String := "struct Row \x7b\x7d impl Row \x7b " ++ functions ++ " \x7d"

/-- The name of the row is read and set as one type. -/
def plainRow : String :=
  rowText "pub fn name(&self) -> &str \x7b todo!() \x7d pub fn set_name(&mut self, name: String) \x7b\x7d"

theorem ofItems_rearranged_row : ∃ file host other,
    ReadsRow plainRow [("name", .scalar .string, true)] [("name", .scalar .string, true)] file host other ∧
      ∃ id type otherType, host.HoldsStruct "Row" id type ∧ other.HoldsStruct "Row" id otherType ∧
        ∃ arranged, arranged.Perm otherType.ownSpecs ∧ List.Forall₂ (fun spec same =>
          MemberAgrees (HasOneType host.names (file.items.map (·.item)) "Row" spec.name) spec same ∧
            (LendsAlike (file.items.map (·.item)) "Row" spec.name →
              other.isLent id spec.name = host.isLent id spec.name)) type.ownSpecs arranged := by
  have found : readsRow plainRow [("name", .scalar .string, true)] [("name", .scalar .string, true)] = true := by
    decide +kernel
  obtain ⟨file, host, other, reads⟩ := readsRow_exists found
  obtain ⟨fields, declared⟩ := reads.declared
  exact ⟨file, host, other, reads, ofItems_rearranged (reversed_rearranges _) reads.read reads.otherRead declared⟩

/-- The name of the row is set by a reference to a text slice, which does not read as a string. -/
def sliceRow : String :=
  rowText "pub fn name(&self) -> &str \x7b todo!() \x7d pub fn set_name(&mut self, name: &str) \x7b\x7d"

/-- Of the two getters of the row it is the last that counts. -/
def twiceRow : String :=
  rowText "pub fn name(&self) -> String \x7b todo!() \x7d pub fn name(&self) -> &String \x7b todo!() \x7d"

/-- The first of two accessors decides about the type of a property, and the last of two getters about its borrow. -/
theorem ofItems_rearranged_differs :
    (¬∀ (items others : List Item) (host other : Host) (owner : String) (id : TypeId) (type otherType : StructType),
      Rearranges items others → ofItems items = .ok host → ofItems others = .ok other →
        host.HoldsStruct owner id type → other.HoldsStruct owner id otherType →
          ∃ arranged, arranged.Perm otherType.ownSpecs ∧ List.Forall₂ (MemberAgrees True) type.ownSpecs arranged) ∧
      ¬∀ (items others : List Item) (host other : Host) (owner : String) (id : TypeId) (type otherType : StructType),
        Rearranges items others → ofItems items = .ok host → ofItems others = .ok other →
          host.HoldsStruct owner id type → other.HoldsStruct owner id otherType →
            ∀ spec ∈ type.ownSpecs, other.isLent id spec.name = host.isLent id spec.name := by
  have slice : readsRow sliceRow [("name", .scalar .string, true)] [("name", .foreign "& str", true)] = true := by
    decide +kernel
  have twice : readsRow twiceRow [("name", .scalar .string, true)] [("name", .scalar .string, false)] = true := by
    decide +kernel
  refine ⟨fun agree => ?type, fun agree => ?lent⟩
  case type =>
    obtain ⟨file, host, other, reads⟩ := readsRow_exists slice
    obtain ⟨id, type, otherType, holds, otherHolds, members, otherMembers⟩ := reads.holds
    obtain ⟨arranged, isArranged, agree⟩ := agree _ _ host other "Row" id type otherType (reversed_rearranges _)
      reads.read reads.otherRead holds otherHolds
    have sameTypes := forall₂_map_eq agree fun spec same agrees => agrees.type (.inr trivial)
    have types := isArranged.map (·.type)
    have ofType := congrArg (List.map (·.2.1)) members
    have ofOther := congrArg (List.map (·.2.1)) otherMembers
    rw [List.map_map] at ofType ofOther
    rw [sameTypes, show type.ownSpecs.map (·.type) = _ from ofType,
      show otherType.ownSpecs.map (·.type) = _ from ofOther] at types
    simp at types
  case lent =>
    obtain ⟨file, host, other, reads⟩ := readsRow_exists twice
    obtain ⟨id, type, otherType, holds, otherHolds, members, otherMembers⟩ := reads.holds
    obtain ⟨spec, isSpec, ofSpec⟩ := List.map_eq_singleton_iff.mp members
    obtain ⟨otherSpec, _, ofOther⟩ := List.map_eq_singleton_iff.mp otherMembers
    have same := agree _ _ host other "Row" id type otherType (reversed_rearranges _) reads.read reads.otherRead holds
      otherHolds spec (isSpec ▸ List.mem_singleton_self spec)
    simp only [Prod.mk.injEq] at ofSpec ofOther
    rw [ofSpec.1] at same ofSpec
    rw [ofOther.1] at ofOther
    rw [ofSpec.2.2, ofOther.2.2] at same
    cases same

end Host

end ObjectMapping
