/-
This file follows the public functions of a struct in the order of the text. The properties behind accessors
stand in the order of their first accessors, and each is made of all accessors of its name.
-/

import ObjectMapping.Proofs.Concat
import ObjectMapping.Proofs.Host.Interface

namespace ObjectMapping

open Source

/-- Changes the first item that the test finds, or else adds a new one at the end. -/
def amendOrAppend {α : Type} (isIt : α → Bool) (change : α → α) (new : α) : List α → List α
  | [] => [new]
  | item :: rest => if isIt item then change item :: rest else item :: amendOrAppend isIt change new rest

section

variable {α : Type} (key : α → String) (name : String) (change : α → α) (new : α)

/-- Where no item has the name, the new one is added. -/
theorem amendOrAppend_new {items : List α} (isNew : name ∉ items.map key) :
    amendOrAppend (fun item => key item == name) change new items = items ++ [new] := by
  induction items with
  | nil => rfl
  | cons item rest inductionHypothesis =>
      rw [List.map_cons, List.mem_cons, not_or] at isNew
      have isOther : ¬(key item == name) = true := fun same => isNew.1 (beq_iff_eq.mp same).symm
      rw [amendOrAppend, if_neg isOther, inductionHypothesis isNew.2, List.cons_append]

/-- Where names differ, it is the items of the name that are changed. -/
theorem amendOrAppend_old {items : List α} (distinct : (items.map key).Nodup) (isOld : name ∈ items.map key) :
    amendOrAppend (fun item => key item == name) change new items =
      items.map fun item => if key item == name then change item else item := by
  induction items with
  | nil => cases isOld
  | cons item rest inductionHypothesis =>
      obtain ⟨isFirst, distinct⟩ := List.nodup_cons.mp distinct
      rw [amendOrAppend, List.map_cons]
      split
      · next same =>
          rw [beq_iff_eq.mp same] at isFirst
          congr 1
          symm
          refine List.map_congr_left (g := id) (fun other present => if_neg fun same => ?_) |>.trans (List.map_id _)
          exact isFirst (List.mem_map.mpr ⟨other, present, beq_iff_eq.mp same⟩)
      · next isOther =>
          have inRest : name ∈ rest.map key := by
            obtain rfl | inRest := List.mem_cons.mp isOld
            · exact absurd (beq_self_eq_true _) isOther
            · exact inRest
          rw [inductionHypothesis distinct inRest]

/-- Where the name is found, what stands behind does not matter. -/
theorem amendOrAppend_append {items : List α} (isOld : name ∈ items.map key) (others : List α) :
    amendOrAppend (fun item => key item == name) change new (items ++ others) =
      amendOrAppend (fun item => key item == name) change new items ++ others := by
  induction items with
  | nil => cases isOld
  | cons item rest inductionHypothesis =>
      rw [List.cons_append, amendOrAppend, amendOrAppend]
      split
      · rfl
      · next isOther =>
          have inRest : name ∈ rest.map key := by
            obtain rfl | inRest := List.mem_cons.mp isOld
            · exact absurd (beq_self_eq_true _) isOther
            · exact inRest
          rw [inductionHypothesis inRest, List.cons_append]

end

namespace Source.Signature

/-- The member that the function gives access to: that of its own name for a getter, and for a setter that behind
`set_`. -/
def accessed? (signature : Signature) : Option String :=
  match signature.receiver?, signature.result, Host.typedInputs signature with
  | some (.receiver _ true false), some _, [] => some signature.name
  | some (.receiver _ true true), none, [_] => Host.setMember? signature.name
  | _, _, _ => none

end Source.Signature

theorem Source.Signature.accessed?_eq_some {signature : Signature} {name : String} :
    signature.accessed? = some name ↔
      (signature.IsGetter ∧ signature.name = name) ∨ (signature.IsSetter ∧ signature.name = "set_" ++ name) := by
  constructor
  · intro accesses
    unfold accessed? at accesses
    split at accesses
    · next tokens result receiver isResult none =>
        cases accesses
        exact .inl ⟨⟨tokens, result, receiver, none, isResult⟩, rfl⟩
    · next tokens input receiver noResult one =>
        exact .inr ⟨⟨tokens, input, receiver, one, noResult⟩, Host.setMember?_eq_some.mp accesses⟩
    · cases accesses
  · rintro (⟨⟨tokens, result, receiver, none, isResult⟩, named⟩ | ⟨⟨tokens, input, receiver, one, noResult⟩, named⟩)
    · simp only [accessed?, receiver, isResult, none, named]
    · simp only [accessed?, receiver, noResult, one]
      exact Host.setMember?_eq_some.mpr named

namespace Host

/-- An access to a member with the type that the accessor reads as. -/
structure Grant where
  name : String
  type : TypeRef
  access : Access

namespace Grant

/-- Whether a getter of the name lends what it reads. -/
def lends? (name : String) (grant : Grant) : Option Bool :=
  match grant.access with
  | .get lent => if grant.name == name then some lent else none
  | .set => none

/-- Whether it is a setter of the name. -/
def sets (name : String) (grant : Grant) : Bool := grant.name == name && grant.access == .set

theorem lends?_eq_some {name : String} {grant : Grant} {lent : Bool} :
    grant.lends? name = some lent ↔ grant.name = name ∧ grant.access = .get lent := by
  cases isAccess : grant.access <;> simp [lends?, isAccess]

end Grant

def AccessorRole.grant? : AccessorRole → Option Grant
  | .constructor _ => none
  | .property name type access => some ⟨name, type, access⟩

def AccessorRole.constructor? : AccessorRole → Option Constructor
  | .constructor way => some way
  | .property _ _ _ => none

end Host

namespace Source

/-- The function that others can call, if the member is one without parameters of its own. -/
def ImplMember.offered? : ImplMember → Option Signature
  | .function true signature => if signature.isGeneric then none else some signature
  | _ => none

/-- What an item holds of the struct itself, apart from any trait. -/
def Item.inherent (owner : String) : Item → List ImplMember
  | .impl block => if Host.implOwner? block == some owner && block.trait == none then block.members else []
  | _ => []

theorem Item.mem_inherent {item : Item} {owner : String} {member : ImplMember} : member ∈ item.inherent owner ↔
    ∃ block, item = .impl block ∧ Host.implOwner? block = some owner ∧ block.trait = none ∧ member ∈ block.members := by
  constructor
  · intro isMember
    unfold inherent at isMember
    split at isMember
    · next block =>
        split at isMember
        · next isOwn =>
            obtain ⟨ofOwner, noTrait⟩ := Bool.and_eq_true_iff.mp isOwn
            exact ⟨block, rfl, beq_iff_eq.mp ofOwner, beq_iff_eq.mp noTrait, isMember⟩
        · cases isMember
    · cases isMember
  · rintro ⟨block, rfl, ofOwner, noTrait, isMember⟩
    simp only [inherent, ofOwner, noTrait, BEq.rfl, Bool.and_self, if_true]
    exact isMember

theorem ImplMember.offered?_eq_some {member : ImplMember} {signature : Signature} :
    member.offered? = some signature ↔ member = .function true signature ∧ signature.isGeneric = false := by
  constructor
  · intro isOffered
    unfold offered? at isOffered
    split at isOffered
    · split at isOffered
      · cases isOffered
      · next notGeneric =>
          cases isOffered
          exact ⟨rfl, Bool.eq_false_iff.mpr notGeneric⟩
    · cases isOffered
  · rintro ⟨rfl, notGeneric⟩
    simp [offered?, notGeneric]

end Source

namespace Host

/-- What the `impl` blocks of a struct hold, apart from those of traits. -/
def inherent (items : List Item) (owner : String) : List ImplMember := items.flatMap (·.inherent owner)

/-- The public functions without parameters of their own in the `impl` blocks of a struct, in the order of the text. -/
def offered (items : List Item) (owner : String) : List Signature := (inherent items owner).filterMap (·.offered?)

theorem mem_offered {items : List Item} {owner : String} {signature : Signature} :
    signature ∈ offered items owner ↔ Offers items owner signature := by
  rw [offered, List.mem_filterMap]
  constructor
  · rintro ⟨member, isInherent, isFunction⟩
    obtain ⟨item, isItem, isMember⟩ := List.mem_flatMap.mp isInherent
    obtain ⟨block, rfl, ofOwner, noTrait, isMember⟩ := Item.mem_inherent.mp isMember
    obtain ⟨rfl, notGeneric⟩ := ImplMember.offered?_eq_some.mp isFunction
    exact ⟨block, isItem, ofOwner, noTrait, isMember, notGeneric⟩
  · rintro ⟨block, isItem, ofOwner, noTrait, isMember, notGeneric⟩
    refine ⟨_, List.mem_flatMap.mpr ⟨.impl block, isItem, ?_⟩, ImplMember.offered?_eq_some.mpr ⟨rfl, notGeneric⟩⟩
    exact Item.mem_inherent.mpr ⟨block, rfl, ofOwner, noTrait, isMember⟩

section

variable (names : TypeNames) (items : List Item) (owner : String)

/-- The roles of the public functions of a struct. -/
def roles : List AccessorRole := (offered items owner).filterMap (accessorRole? names owner)

def grants : List Grant := (roles names items owner).filterMap (·.grant?)

/-- The members that the public functions of a struct give access to, in the order of their first accessors. -/
def accessedNames : List String := ((offered items owner).filterMap (·.accessed?)).eraseDups

end

variable {names : TypeNames} {items : List Item} {owner : String}

theorem mem_accessedNames {name : String} :
    name ∈ accessedNames items owner ↔ HasGetter items owner name ∨ HasSetter items owner ("set_" ++ name) := by
  rw [accessedNames, List.mem_eraseDups, List.mem_filterMap]
  constructor
  · rintro ⟨signature, isOffered, accesses⟩
    obtain ⟨isGetter, named⟩ | ⟨isSetter, named⟩ := Signature.accessed?_eq_some.mp accesses
    · exact .inl ⟨signature, mem_offered.mp isOffered, named, isGetter⟩
    · exact .inr ⟨signature, mem_offered.mp isOffered, named, isSetter⟩
  · rintro (⟨signature, isOffered, named, isGetter⟩ | ⟨signature, isOffered, named, isSetter⟩)
    · exact ⟨signature, mem_offered.mpr isOffered, Signature.accessed?_eq_some.mpr (.inl ⟨isGetter, named⟩)⟩
    · exact ⟨signature, mem_offered.mpr isOffered, Signature.accessed?_eq_some.mpr (.inr ⟨isSetter, named⟩)⟩

/-- What a public function grants goes by its form alone: a getter grants the result, a setter its argument. -/
theorem accessorRole?_grant {signature : Signature} {grant : Grant} :
    (accessorRole? names owner signature).bind (·.grant?) = some grant ↔
      (∃ tokens result, signature.receiver? = some (.receiver tokens true false) ∧ typedInputs signature = [] ∧
        signature.result = some result ∧ grant = ⟨signature.name, (TypeRef.ofGetter names result).1,
          .get (TypeRef.ofGetter names result).2⟩) ∨
      ∃ tokens pattern type, signature.receiver? = some (.receiver tokens true true) ∧
        typedInputs signature = [(pattern, type)] ∧ signature.result = none ∧
          signature.name = "set_" ++ grant.name ∧ grant.type = TypeRef.ofWritten names type ∧ grant.access = .set := by
  constructor
  · intro found
    obtain ⟨role, isRole, grants⟩ := Option.bind_eq_some_iff.mp found
    cases accessorRole?_rule isRole with
    | constructs => cases grants
    | gets tokens result receiver isResult noInput =>
        cases grants
        exact .inl ⟨tokens, result, receiver, noInput, isResult, rfl⟩
    | sets tokens pattern type member receiver noResult input named =>
        cases grants
        exact .inr ⟨tokens, pattern, type, receiver, input, noResult, setMember?_eq_some.mp named, rfl, rfl⟩
  · rintro (⟨tokens, result, receiver, none, isResult, rfl⟩ |
      ⟨tokens, pattern, type, receiver, one, noResult, named, isType, isAccess⟩)
    · simp only [accessorRole?, receiver, isResult, none, Option.bind_some, AccessorRole.grant?]
    · obtain ⟨name, type, access⟩ := grant
      cases isType
      cases isAccess
      simp only [accessorRole?, receiver, noResult, one, setMember?_eq_some.mpr named, Option.map_some,
        Option.bind_some, AccessorRole.grant?]

/-- A constructor is a public function without a receiver that gives a value of the struct. -/
theorem accessorRole?_constructor {signature : Signature} :
    ((accessorRole? names owner signature).bind (·.constructor?)).isSome = true ↔ signature.IsConstructor owner := by
  constructor
  · intro found
    obtain ⟨way, found⟩ := Option.isSome_iff_exists.mp found
    obtain ⟨role, isRole, constructs⟩ := Option.bind_eq_some_iff.mp found
    cases accessorRole?_rule isRole with
    | constructs result noReceiver isResult own => exact ⟨result, noReceiver, isResult, own⟩
    | gets | sets => cases constructs
  · rintro ⟨result, receiver, isResult, own⟩
    simp [accessorRole?, receiver, isResult, own, AccessorRole.constructor?]

namespace Accessors

/-- The accessors apart from the base, which no public function changes. -/
def withoutBase (accessors : Accessors) : Accessors := { accessors with base := .none }

theorem foldl_add_withoutBase (roles : List AccessorRole) (accessors : Accessors) :
    (roles.foldl add accessors).withoutBase = roles.foldl add accessors.withoutBase := by
  induction roles generalizing accessors with
  | nil => rfl
  | cons role rest inductionHypothesis =>
      rw [List.foldl_cons, inductionHypothesis]
      cases role <;> rfl

/-- A function counts if others can call it and it has a role. -/
theorem addMember_offered (accessors : Accessors) (member : ImplMember) :
    accessors.addMember names owner member =
      ((member.offered?.bind (accessorRole? names owner)).elim accessors accessors.add) := by
  cases member with
  | function isPublic signature =>
      cases isPublic with
      | false => rfl
      | true =>
          unfold addMember ImplMember.offered?
          dsimp only
          cases signature.isGeneric with
          | true => rfl
          | false =>
              rw [if_neg Bool.false_ne_true, if_neg Bool.false_ne_true, Option.bind_some]
              cases accessorRole? names owner signature <;> rfl
  | type | other => rfl

theorem foldl_addMember (members : List ImplMember) (accessors : Accessors) :
    members.foldl (addMember names owner) accessors =
      ((members.filterMap (·.offered?)).filterMap (accessorRole? names owner)).foldl add accessors := by
  rw [List.filterMap_filterMap, List.foldl_filterMap]
  congr 1
  funext accessors member
  rw [addMember_offered]
  cases member.offered?.bind (accessorRole? names owner) <;> rfl

theorem addImpl_withoutBase (accessors : Accessors) {block : ImplItem}
    (ofOwner : (implOwner? block == some owner) = true) :
    (accessors.addImpl names owner block).withoutBase =
      ((((Item.impl block).inherent owner).filterMap (·.offered?)).filterMap (accessorRole? names owner)).foldl add
        accessors.withoutBase := by
  unfold Item.inherent addImpl
  dsimp only
  rw [ofOwner, Bool.true_and]
  split
  · next noTrait => rw [noTrait, if_pos BEq.rfl, foldl_addMember, foldl_add_withoutBase]
  · next dereferences =>
      rw [dereferences]
      rfl
  · next isTrait =>
      rw [isTrait]
      rfl

theorem foldl_add_properties (roles : List AccessorRole) (accessors : Accessors) :
    (roles.foldl add accessors).properties = (roles.filterMap (·.grant?)).foldl
      (fun all grant => addAccess grant.name grant.type grant.access all) accessors.properties := by
  induction roles generalizing accessors with
  | nil => rfl
  | cons role rest inductionHypothesis =>
      rw [List.foldl_cons, inductionHypothesis]
      cases role <;> rfl

theorem foldl_add_constructors (roles : List AccessorRole) (accessors : Accessors) :
    (roles.foldl add accessors).constructors = accessors.constructors ++ roles.filterMap (·.constructor?) := by
  induction roles generalizing accessors with
  | nil => exact (List.append_nil _).symm
  | cons role rest inductionHypothesis =>
      rw [List.foldl_cons, inductionHypothesis]
      cases role with
      | constructor way => exact List.append_assoc _ _ _
      | property name type access => rfl

end Accessors

theorem roles_cons (item : Item) (rest : List Item) : roles names (item :: rest) owner =
    ((item.inherent owner).filterMap (·.offered?)).filterMap (accessorRole? names owner) ++ roles names rest owner := by
  rw [roles, offered, inherent, List.flatMap_cons, List.filterMap_append, List.filterMap_append]
  rfl

/-- The `impl` blocks of a struct are collected function by function. -/
theorem accessorsOf_roles :
    (accessorsOf names items owner).withoutBase = (roles names items owner).foldl Accessors.add .none := by
  have collected (accessors : Accessors) : (items.foldl (fun accessors item =>
      match item with
      | .impl block =>
          if implOwner? block == some owner then accessors.addImpl names owner block else accessors
      | _ => accessors) accessors).withoutBase =
      (roles names items owner).foldl Accessors.add accessors.withoutBase := by
    induction items generalizing accessors with
    | nil => rfl
    | cons item rest inductionHypothesis =>
        rw [List.foldl_cons, inductionHypothesis, roles_cons, List.foldl_append]
        congr 1
        cases item with
        | impl block =>
            dsimp only
            split
            · next ofOwner => exact accessors.addImpl_withoutBase ofOwner
            · next ofOther =>
                rw [Item.inherent, if_neg (by simp [ofOther])]
                rfl
        | struct | «enum» | trait | other => rfl
  exact collected .none

theorem accessorsOf_properties : (accessorsOf names items owner).properties =
    (grants names items owner).foldl (fun all grant => addAccess grant.name grant.type grant.access all) [] :=
  (congrArg (·.properties) accessorsOf_roles).trans (Accessors.foldl_add_properties _ _)

theorem accessorsOf_constructors :
    (accessorsOf names items owner).constructors = (roles names items owner).filterMap (·.constructor?) :=
  (congrArg (·.constructors) accessorsOf_roles).trans (Accessors.foldl_add_constructors _ _)

theorem addAccess_eq (name : String) (type : TypeRef) (access : Access) (properties : List Property) :
    addAccess name type access properties = amendOrAppend (fun property => property.name == name) (·.grant access)
      ((Property.mk name type false false false).grant access) properties := by
  induction properties with
  | nil => rfl
  | cons property rest inductionHypothesis => rw [addAccess, amendOrAppend, inductionHypothesis]

/-- The property stands for all grants of its name. -/
structure Property.IsMadeOf (grants : List Grant) (property : Property) : Prop where
  type : (grants.find? fun grant => grant.name == property.name).map (·.type) = some property.type
  readable : property.readable = !(grants.filterMap (·.lends? property.name)).isEmpty
  settable : property.settable = grants.any (·.sets property.name)
  /-- Of several getters it is the last that counts. -/
  lent : property.lent = (grants.filterMap (·.lends? property.name)).getLast?.getD false

@[simp]
theorem Property.grant_name (property : Property) (access : Access) : (property.grant access).name = property.name := by
  cases access <;> rfl

@[simp]
theorem Property.grant_type (property : Property) (access : Access) : (property.grant access).type = property.type := by
  cases access <;> rfl

namespace Property.IsMadeOf

variable {grants : List Grant} {property : Property} {grant : Grant}

theorem grant_own (made : property.IsMadeOf grants) (own : grant.name = property.name) :
    (property.grant grant.access).IsMadeOf (grants ++ [grant]) := by
  obtain ⟨type, readable, settable, lent⟩ := made
  refine ⟨?_, ?_, ?_, ?_⟩
  · rw [grant_name, grant_type, List.find?_append, Option.map_or, type, Option.some_or]
  all_goals
    rw [grant_name]
    cases isAccess : grant.access <;>
      simp [Property.grant, Grant.lends?, Grant.sets, isAccess, own, readable, settable, lent]

theorem grant_other (made : property.IsMadeOf grants) (other : grant.name ≠ property.name) :
    property.IsMadeOf (grants ++ [grant]) := by
  obtain ⟨type, readable, settable, lent⟩ := made
  have notLent : grant.lends? property.name = none := by
    cases isAccess : grant.access <;> simp [Grant.lends?, isAccess, other]
  refine ⟨?_, ?_, ?_, ?_⟩
  · rw [List.find?_append, Option.map_or, type, Option.some_or]
  · simp [notLent, readable]
  · simp [Grant.sets, other, settable]
  · simp [notLent, lent]

theorem grant_new (isNew : grant.name ∉ grants.map (·.name)) :
    ((Property.mk grant.name grant.type false false false).grant grant.access).IsMadeOf (grants ++ [grant]) := by
  have isOther (earlier : Grant) (present : earlier ∈ grants) : earlier.name ≠ grant.name :=
    fun same => isNew (List.mem_map.mpr ⟨earlier, present, same⟩)
  have noneFound : (grants.find? fun earlier => earlier.name == grant.name) = none :=
    List.find?_eq_none.mpr fun earlier present => by simpa using isOther earlier present
  have noneLent : grants.filterMap (·.lends? grant.name) = [] := by
    refine List.filterMap_eq_nil_iff.mpr fun earlier present => ?_
    cases isAccess : earlier.access <;> simp [Grant.lends?, isAccess, isOther earlier present]
  have noneSet : grants.any (·.sets grant.name) = false := by
    refine List.any_eq_false.mpr fun earlier present => ?_
    simp [Grant.sets, isOther earlier present]
  refine ⟨?_, ?_, ?_, ?_⟩
  · rw [grant_name, grant_type, List.find?_append, noneFound]
    simp
  all_goals
    simp only [grant_name, List.filterMap_append, noneLent, List.any_append, noneSet]
    cases isAccess : grant.access <;> simp [Property.grant, Grant.lends?, Grant.sets, isAccess]

end Property.IsMadeOf

/-- Grants are collected by their names, in the order of the first ones. -/
theorem foldl_addAccess (grants : List Grant) :
    let properties := grants.foldl (fun all grant => addAccess grant.name grant.type grant.access all) []
    properties.map (·.name) = (grants.map (·.name)).eraseDups ∧
      ∀ property ∈ properties, property.IsMadeOf grants := by
  induction grants using List.reverseRecOn with
  | nil => exact ⟨rfl, nofun⟩
  | append_singleton grants grant inductionHypothesis =>
      dsimp only at inductionHypothesis ⊢
      rw [List.foldl_append, List.foldl_cons, List.foldl_nil, addAccess_eq, List.map_append, List.map_singleton,
        eraseDups_concat]
      generalize grants.foldl (fun all grant => addAccess grant.name grant.type grant.access all) [] = properties
        at inductionHypothesis ⊢
      obtain ⟨inOrder, made⟩ := inductionHypothesis
      have distinct : (properties.map (·.name)).Nodup := inOrder ▸ eraseDups_nodup _
      have isOld : grant.name ∈ properties.map (·.name) ↔ grant.name ∈ grants.map (·.name) := by
        rw [inOrder, List.mem_eraseDups]
      split
      · next known =>
          rw [amendOrAppend_old _ _ _ _ distinct (isOld.mpr known), ← inOrder, List.map_map]
          refine ⟨List.map_congr_left fun property _ => ?_, List.forall_mem_map.mpr fun property present => ?_⟩
          · dsimp only [Function.comp]
            split
            · exact property.grant_name _
            · rfl
          · split
            · next same => exact (made property present).grant_own (beq_iff_eq.mp same).symm
            · next differs =>
                exact (made property present).grant_other fun same => differs (beq_iff_eq.mpr same.symm)
      · next isNew =>
          rw [amendOrAppend_new _ _ _ _ (mt isOld.mp isNew), List.map_append, List.map_singleton, Property.grant_name,
            inOrder]
          refine ⟨rfl, List.forall_mem_append.mpr ⟨fun property present => ?_, ?_⟩⟩
          · refine (made property present).grant_other fun same => isNew (isOld.mp ?_)
            exact List.mem_map.mpr ⟨property, present, same.symm⟩
          · exact List.forall_mem_singleton.mpr (Property.IsMadeOf.grant_new isNew)

/-- What a function grants has the name of the member that it gives access to. -/
theorem accessorRole?_accessed (signature : Signature) :
    ((accessorRole? names owner signature).bind (·.grant?)).map (·.name) = signature.accessed? := by
  refine Option.ext fun name => ?_
  rw [Option.map_eq_some_iff, Signature.accessed?_eq_some]
  constructor
  · rintro ⟨grant, found, rfl⟩
    obtain ⟨tokens, result, receiver, none, isResult, rfl⟩ |
        ⟨tokens, pattern, type, receiver, one, noResult, named, _⟩ := accessorRole?_grant.mp found
    · exact .inl ⟨⟨tokens, result, receiver, none, isResult⟩, rfl⟩
    · exact .inr ⟨⟨tokens, _, receiver, one, noResult⟩, named⟩
  · rintro (⟨⟨tokens, result, receiver, none, isResult⟩, rfl⟩ |
      ⟨⟨tokens, ⟨pattern, type⟩, receiver, one, noResult⟩, named⟩)
    · exact ⟨_, accessorRole?_grant.mpr (.inl ⟨tokens, result, receiver, none, isResult, rfl⟩), rfl⟩
    · exact ⟨⟨name, _, .set⟩, accessorRole?_grant.mpr
        (.inr ⟨tokens, pattern, type, receiver, one, noResult, named, rfl, rfl⟩), rfl⟩

theorem grants_names : (grants names items owner).map (·.name) = (offered items owner).filterMap (·.accessed?) := by
  rw [grants, roles, List.filterMap_filterMap, List.map_filterMap]
  exact List.filterMap_congr fun signature _ => accessorRole?_accessed signature

/-- The properties of a struct stand in the order of their first accessors. -/
theorem accessorsOf_names (names : TypeNames) (items : List Item) (owner : String) :
    (accessorsOf names items owner).properties.map (·.name) = accessedNames items owner := by
  rw [accessorsOf_properties, (foldl_addAccess _).1, grants_names]
  rfl

theorem accessorsOf_isMadeOf : ∀ property ∈ (accessorsOf names items owner).properties,
    property.IsMadeOf (grants names items owner) := by
  rw [accessorsOf_properties]
  exact (foldl_addAccess _).2

theorem mem_grants {grant : Grant} : grant ∈ grants names items owner ↔
    ∃ signature, Offers items owner signature ∧ (accessorRole? names owner signature).bind (·.grant?) = some grant := by
  rw [grants, roles, List.filterMap_filterMap, List.mem_filterMap]
  simp only [mem_offered]

theorem hasGetter_iff (names : TypeNames) {name : String} : HasGetter items owner name ↔
    ∃ grant ∈ grants names items owner, ∃ lent, grant.name = name ∧ grant.access = .get lent := by
  constructor
  · rintro ⟨signature, offered, rfl, tokens, result, receiver, none, isResult⟩
    refine ⟨⟨signature.name, (TypeRef.ofGetter names result).1, .get (TypeRef.ofGetter names result).2⟩,
      mem_grants.mpr ⟨signature, offered, ?_⟩, _, rfl, rfl⟩
    exact accessorRole?_grant.mpr (.inl ⟨tokens, result, receiver, none, isResult, rfl⟩)
  · rintro ⟨grant, isGrant, lent, rfl, isGet⟩
    obtain ⟨signature, offered, found⟩ := mem_grants.mp isGrant
    obtain ⟨tokens, result, receiver, none, isResult, rfl⟩ | ⟨_, _, _, _, _, _, _, _, isSet⟩ :=
      accessorRole?_grant.mp found
    · exact ⟨signature, offered, rfl, tokens, result, receiver, none, isResult⟩
    · rw [isGet] at isSet
      cases isSet

theorem hasSetter_iff (names : TypeNames) {name : String} : HasSetter items owner ("set_" ++ name) ↔
    ∃ grant ∈ grants names items owner, grant.name = name ∧ grant.access = .set := by
  constructor
  · rintro ⟨signature, offered, named, tokens, ⟨pattern, type⟩, receiver, one, noResult⟩
    refine ⟨⟨name, TypeRef.ofWritten names type, .set⟩, mem_grants.mpr ⟨signature, offered, ?_⟩, rfl, rfl⟩
    exact accessorRole?_grant.mpr (.inr ⟨tokens, pattern, type, receiver, one, noResult, named, rfl, rfl⟩)
  · rintro ⟨grant, isGrant, rfl, isSet⟩
    obtain ⟨signature, offered, found⟩ := mem_grants.mp isGrant
    obtain ⟨_, _, _, _, _, rfl⟩ | ⟨tokens, pattern, type, receiver, one, noResult, named, _⟩ :=
      accessorRole?_grant.mp found
    · cases isSet
    · exact ⟨signature, offered, named, tokens, _, receiver, one, noResult⟩

/-- A property can be read if and only if there is a getter, and set if and only if there is a setter. -/
theorem accessorsOf_isAccessed {property : Property} (present : property ∈ (accessorsOf names items owner).properties) :
    (property.readable = true ↔ HasGetter items owner property.name) ∧
      (property.settable = true ↔ HasSetter items owner ("set_" ++ property.name)) := by
  have made := accessorsOf_isMadeOf property present
  rw [made.readable, made.settable, hasGetter_iff names, hasSetter_iff names]
  constructor
  · rw [Bool.not_eq_true', Bool.eq_false_iff, ne_eq, List.isEmpty_iff, List.filterMap_eq_nil_iff]
    simp only [not_forall, exists_prop, ← ne_eq, Option.ne_none_iff_exists', Grant.lends?_eq_some]
  · simp only [List.any_eq_true, Grant.sets, Bool.and_eq_true, beq_iff_eq]

/-- Constructors that are declared are functions. -/
theorem accessorsOf_noLiteral : .literal ∉ (accessorsOf names items owner).constructors := by
  rw [accessorsOf_constructors, roles, List.filterMap_filterMap]
  intro present
  obtain ⟨signature, _, found⟩ := List.mem_filterMap.mp present
  obtain ⟨role, isRole, constructs⟩ := Option.bind_eq_some_iff.mp found
  cases accessorRole?_rule isRole <;> cases constructs

theorem accessorsOf_constructs (names : TypeNames) :
    (accessorsOf names items owner).constructors = [] ↔ ¬∃ name, HasConstructor items owner name := by
  rw [accessorsOf_constructors, roles, List.filterMap_filterMap, List.filterMap_eq_nil_iff]
  constructor
  · rintro noneFound ⟨name, signature, offered, _, constructs⟩
    have found : ((accessorRole? names owner signature).bind (·.constructor?)).isSome = true :=
      accessorRole?_constructor.mpr constructs
    rw [noneFound signature (mem_offered.mpr offered)] at found
    cases found
  · intro noneDeclared signature isOffered
    refine Option.not_isSome_iff_eq_none.mp fun found => noneDeclared ⟨signature.name, signature, ?_⟩
    exact ⟨mem_offered.mp isOffered, rfl, accessorRole?_constructor.mp found⟩

end Host

end ObjectMapping
