/-
This file follows the lookup of a lent property from a struct to its bases. It ends, since a base chain comes back to
none of its structs; and since names differ along the chain, it is the struct that a member comes from whose getter
decides.
-/

import ObjectMapping.Proofs.Host.Rearranged

namespace ObjectMapping

open Relation Source

/-- What a list yields last comes from the last item that yields anything. -/
theorem getLast?_filterMap_eq_some {α β : Type} {yields : α → Option β} {items : List α} {value : β} :
    (items.filterMap yields).getLast? = some value ↔ ∃ before item after, items = before ++ item :: after ∧
      yields item = some value ∧ ∀ later ∈ after, yields later = none := by
  rw [List.getLast?_filterMap, List.findSome?_eq_some_iff]
  constructor
  · rintro ⟨after, item, before, split, isValue, noneLater⟩
    refine ⟨before.reverse, item, after.reverse, ?_, isValue, fun later present => ?_⟩
    · rw [← List.reverse_reverse items, split, List.reverse_append, List.reverse_cons, List.append_assoc]
      rfl
    · exact noneLater later (List.mem_reverse.mp present)
  · rintro ⟨before, item, after, rfl, isValue, noneLater⟩
    refine ⟨after.reverse, item, before.reverse, ?_, isValue, fun later present => ?_⟩
    · rw [List.reverse_append, List.reverse_cons, List.append_assoc]
      rfl
    · exact noneLater later (List.mem_reverse.mp present)

namespace SchemaDraft

/-- Each base leaves the places that remain, so that there are no more bases than places. -/
theorem baseChain_length {draft : SchemaDraft} {owner : String} {remaining : List TypeId} {start : Option TypeId}
    {bases : List StructDefinition} (found : draft.baseChain owner remaining start = .ok bases) :
    bases.length ≤ remaining.length := by
  fun_induction baseChain draft owner remaining start generalizing bases with
  | case1 =>
      cases found
      exact Nat.zero_le _
  | case3 remaining base slot atPlace present definition isStruct fewer inductionHypothesis =>
      obtain ⟨further, furtherFound, same⟩ := (bind_ok _ _ _).mp found
      cases same
      have shorter := inductionHypothesis furtherFound
      rw [List.length_cons]
      omega
  | case2 | case4 | case5 => cases found

/-- The bases of a struct in a schema are fewer than its types. -/
theorem build_bases_length {draft : SchemaDraft} {schema : Schema} (built : draft.build = .ok schema) {id : TypeId}
    {body : StructDefinition} (defined : draft.Defines id (.struct body)) {bases : List StructDefinition}
    (chain : BaseDefinitions draft.Defines body.base bases) : bases.length < schema.types.length := by
  obtain ⟨ident, atPlace⟩ := defined
  obtain ⟨descriptor, _, described⟩ := draft.build_slot schema built id _ atPlace
  obtain ⟨_, isEnum, _⟩ | ⟨definition, others, isStruct, found, _⟩ := draft.describe_ok id _ descriptor described
  · cases isEnum
  · cases isStruct
    obtain rfl := chain.unique draft.defines_functional (baseChain_ok found)
    have bounded := baseChain_length found
    have isPlace : id ∈ draft.ids := Defines.inRange ⟨ident, atPlace⟩
    rw [List.length_erase_of_mem isPlace] at bounded
    have someIds := List.length_pos_of_mem isPlace
    have places : draft.ids.length = draft.slots.length := by rw [ids, List.length_map, List.length_range]
    rw [build_length built]
    omega

end SchemaDraft

namespace Host

/-- The base of a struct of the schema. -/
def base? (host : Host) (id : TypeId) : Option TypeId := ((host.schema.get? id).bind (·.struct?)).bind (·.base)

/-- The second struct is the base of the first. -/
def DerivesFrom (host : Host) (id base : TypeId) : Prop := host.base? id = some base

/-- The lookup of a property among those that are lent, from a struct to its base and on, without a bound. It ends at
the first struct that lends a property of the name, or behind the last base. -/
inductive LooksUp (host : Host) (name : String) : Option TypeId → Nat → Bool → Prop
  | ended : LooksUp host name none 0 false
  | found (id : TypeId) (lends : (id, name) ∈ host.lentProperties) : LooksUp host name (some id) 1 true
  | further (id : TypeId) (steps : Nat) (answer : Bool) (keeps : (id, name) ∉ host.lentProperties)
      (rest : LooksUp host name (host.base? id) steps answer) : LooksUp host name (some id) (steps + 1) answer

/-- A member comes from the struct of the base chain that declares it; no other struct of the chain has an own member
of its name. -/
structure Contributes (host : Host) (owner : TypeId) (spec : MemberSpec) (holder : String) (id : TypeId) : Prop where
  inChain : ReflTransGen host.DerivesFrom owner id
  declares : ∃ type, host.HoldsStruct holder id type ∧ spec ∈ type.ownSpecs
  only : ∀ other name type, ReflTransGen host.DerivesFrom owner other → host.HoldsStruct name other type →
    spec.name ∈ type.ownSpecs.map (·.name) → other = id

/-- The function is the getter of the member that a struct offers; of several getters it is the last that counts. -/
def IsGetterOf (items : List Item) (owner name : String) (getter : Signature) : Prop :=
  ∃ before after, offered items owner = before ++ getter :: after ∧ getter.name = name ∧ getter.IsGetter ∧
    ∀ later ∈ after, later.name = name → ¬later.IsGetter

variable {names : TypeNames} {items : List Item} {owner : String}

/-- It is the getters of the name that say something about the borrow. -/
theorem lends?_eq_none {name : String} {signature : Signature} :
    lends? names owner name signature = none ↔ (signature.name = name → ¬signature.IsGetter) := by
  constructor
  · intro noneLends isNamed isGetter
    obtain ⟨lent, gives⟩ : ∃ lent : Bool, lent = true ↔ signature.GivesReference := by
      classical exact ⟨_, decide_eq_true_iff⟩
    have lends : lends? names owner name signature = some lent := lends?_eq_some.mpr ⟨isNamed, isGetter, gives⟩
    rw [noneLends] at lends
    cases lends
  · intro other
    refine Option.eq_none_iff_forall_ne_some.mpr fun lent lends => ?_
    obtain ⟨isNamed, isGetter, _⟩ := lends?_eq_some.mp lends
    exact other isNamed isGetter

/-- A property is lent if and only if the getter that counts gives a reference. -/
theorem accessorsOf_lends {name : String} :
    (∃ property ∈ (accessorsOf names items owner).properties, property.lent = true ∧ property.name = name) ↔
      ∃ getter, IsGetterOf items owner name getter ∧ getter.GivesReference := by
  have lastLends : ((grants names items owner).filterMap (·.lends? name)).getLast? = some true ↔
      ∃ getter, IsGetterOf items owner name getter ∧ getter.GivesReference := by
    rw [grants_lends, getLast?_filterMap_eq_some]
    constructor
    · rintro ⟨before, getter, after, split, lends, noneLater⟩
      obtain ⟨isNamed, isGetter, gives⟩ := lends?_eq_some.mp lends
      have isLast : ∀ later ∈ after, later.name = name → ¬later.IsGetter :=
        fun later present => lends?_eq_none.mp (noneLater later present)
      exact ⟨getter, ⟨before, after, split, isNamed, isGetter, isLast⟩, gives.mp rfl⟩
    · rintro ⟨getter, ⟨before, after, split, isNamed, isGetter, isLast⟩, gives⟩
      exact ⟨before, getter, after, split, lends?_eq_some.mpr ⟨isNamed, isGetter, iff_of_true rfl gives⟩,
        fun later present => lends?_eq_none.mpr (isLast later present)⟩
  rw [← lastLends]
  constructor
  · rintro ⟨property, present, lends, rfl⟩
    have made := accessorsOf_isMadeOf property present
    rw [made.lent, Option.getD_eq_iff] at lends
    exact lends.resolve_right nofun
  · intro lends
    obtain ⟨getter, ⟨before, after, split, isNamed, isGetter, _⟩, _⟩ := lastLends.mp lends
    have isOffered : getter ∈ offered items owner := split ▸ List.mem_append_right _ List.mem_cons_self
    have isAccessed : IsAccessed items owner name := .inl ⟨getter, mem_offered.mp isOffered, isNamed, isGetter⟩
    rw [← @accessorsOf_isAccessed_iff names] at isAccessed
    obtain ⟨property, present, rfl⟩ := List.mem_map.mp isAccessed
    refine ⟨property, present, ?_, rfl⟩
    rw [(accessorsOf_isMadeOf property present).lent, lends, Option.getD_some]

theorem DerivesFrom.unique (host : Host) : Relator.RightUnique host.DerivesFrom :=
  fun _ _ _ first second => Option.some.inj (first.symm.trans second)

section

variable {host : Host} {draft : SchemaDraft} (built : draft.build = .ok host.schema)

include built

/-- The schema has the base that the definition of the struct has. -/
theorem base?_defined {id : TypeId} {body : StructDefinition} (defined : draft.Defines id (.struct body))
    {bases : List StructDefinition} (chain : BaseDefinitions draft.Defines body.base bases) :
    host.base? id = body.base := by
  obtain ⟨ident, atPlace⟩ := defined
  have isNamed : draft.names[id.index]? = some ident := by
    rw [SchemaDraft.names, List.getElem?_map, atPlace]
    rfl
  have found := (SchemaDraft.build_describes built id _).mpr ⟨ident, isNamed, .struct body bases ⟨ident, atPlace⟩ chain⟩
  rw [base?, found]
  rfl

/-- The lookup along a base chain ends, at the latest behind the last base; a budget for all bases is enough for it. -/
theorem baseChain_looksUp (name : String) {start : Option TypeId} {bases : List StructDefinition}
    (chain : BaseDefinitions draft.Defines start bases) {budget : Nat} (enough : bases.length ≤ budget) :
    ∃ steps ≤ bases.length, host.LooksUp name start steps
      ((host.baseChain budget start).any fun id => host.lentProperties.contains (id, name)) := by
  induction chain generalizing budget with
  | nil => exact ⟨0, Nat.le_refl _, by cases budget <;> exact .ended⟩
  | cons base body further defined chain inductionHypothesis =>
      obtain ⟨budget, rfl⟩ := Nat.exists_eq_add_of_le' (Nat.one_le_of_lt (Nat.lt_of_succ_le enough))
      rw [baseChain, List.any_cons]
      by_cases lends : (base, name) ∈ host.lentProperties
      · rw [List.contains_iff_mem.mpr lends, Bool.true_or]
        exact ⟨1, by simp, .found base lends⟩
      · rw [Bool.eq_false_iff.mpr (mt List.contains_iff_mem.mp lends), Bool.false_or]
        obtain ⟨steps, bounded, rest⟩ := inductionHypothesis (Nat.le_of_succ_le_succ enough)
        rw [← base?_defined built defined chain] at rest
        exact ⟨steps + 1, Nat.succ_le_succ bounded, .further base steps _ lends rest⟩

/-- Every struct that is reached from a base along the chain is one of the bases. -/
theorem reached_isBase {start : Option TypeId} {bases : List StructDefinition}
    (chain : BaseDefinitions draft.Defines start bases) {base other : TypeId} (isStart : start = some base)
    (steps : ReflTransGen host.DerivesFrom base other) : ∃ body ∈ bases, draft.Defines other (.struct body) := by
  induction chain generalizing base with
  | nil => cases isStart
  | cons base body further defined chain inductionHypothesis =>
      cases isStart
      obtain rfl | ⟨next, isBase, steps⟩ := ReflTransGen.cases_head steps
      · exact ⟨body, List.mem_cons_self, defined⟩
      · rw [DerivesFrom, base?_defined built defined chain] at isBase
        obtain ⟨found, present, isFound⟩ := inductionHypothesis isBase steps
        exact ⟨found, List.mem_cons_of_mem _ present, isFound⟩

/-- Each of the bases is reached from the first along the chain. -/
theorem isBase_reached {start : Option TypeId} {bases : List StructDefinition}
    (chain : BaseDefinitions draft.Defines start bases) : ∀ body ∈ bases, ∃ base other, start = some base ∧
      ReflTransGen host.DerivesFrom base other ∧ draft.Defines other (.struct body) := by
  induction chain with
  | nil => nofun
  | cons base body further defined chain inductionHypothesis =>
      refine List.forall_mem_cons.mpr ⟨⟨base, base, rfl, .refl, defined⟩, fun found present => ?_⟩
      obtain ⟨next, other, isBase, steps, isFound⟩ := inductionHypothesis found present
      rw [← base?_defined built defined chain] at isBase
      exact ⟨base, other, rfl, .head isBase steps, isFound⟩

end

/-- The unbounded lookup says whether a struct that is reached lends a property of the name. -/
theorem LooksUp.answers {host : Host} {name : String} {start : Option TypeId} {steps : Nat} {answer : Bool}
    (looksUp : host.LooksUp name start steps answer) : answer = true ↔ ∃ id other, start = some id ∧
      ReflTransGen host.DerivesFrom id other ∧ (other, name) ∈ host.lentProperties := by
  induction looksUp with
  | ended => exact ⟨nofun, nofun⟩
  | found id lends => exact iff_of_true rfl ⟨id, id, rfl, .refl, lends⟩
  | further id steps answer keeps rest inductionHypothesis =>
      rw [inductionHypothesis]
      constructor
      · rintro ⟨base, other, isBase, further, lends⟩
        exact ⟨id, other, rfl, .head isBase further, lends⟩
      · rintro ⟨_, other, isStart, reached, lends⟩
        cases isStart
        obtain rfl | ⟨base, isBase, further⟩ := ReflTransGen.cases_head reached
        · exact absurd lends keeps
        · exact ⟨base, other, isBase, further, lends⟩

namespace IsDrafted

variable {host : Host} {draft : SchemaDraft} (drafted : IsDrafted items host draft)

include drafted

theorem isDefined {id : TypeId} {body : StructDefinition} (defined : draft.Defines id (.struct body)) :
    ∃ holder fields, IsDefined items host draft holder fields id body := by
  obtain ⟨holder, fields, declared, isNamed⟩ := drafted.declared id body defined
  obtain ⟨other, otherBody, isDefined⟩ := drafted.structs holder fields declared
  obtain rfl := Option.some.inj (isNamed.symm.trans isDefined.named)
  cases draft.defines_functional _ _ _ defined isDefined.defined
  exact ⟨holder, fields, isDefined⟩

/-- A struct of the schema is laid out from its definition. -/
theorem struct {id : TypeId} {type : StructType} (isStruct : (host.schema.get? id).bind (·.struct?) = some type) :
    ∃ body bases, draft.Defines id (.struct body) ∧ BaseDefinitions draft.Defines body.base bases ∧
      type = ⟨body.base, SchemaDraft.layOut id body.members bases, body.constructors⟩ := by
  obtain ⟨descriptor, found, isStruct⟩ := Option.bind_eq_some_iff.mp isStruct
  obtain ⟨ident, _, describes⟩ := (SchemaDraft.build_describes drafted.built id descriptor).mp found
  cases describes with
  | «enum» => cases isStruct
  | struct body bases defined chain =>
      cases isStruct
      exact ⟨body, bases, defined, chain, rfl⟩

/-- Of two structs on a base chain with an own member of a name, neither is behind the other. -/
theorem own_unique {id first second : TypeId} {firstBody secondBody : StructDefinition}
    (toFirst : ReflTransGen host.DerivesFrom id first) (toSecond : ReflTransGen host.DerivesFrom id second)
    (firstDefined : draft.Defines first (.struct firstBody)) (secondDefined : draft.Defines second (.struct secondBody))
    {name : String} (inFirst : name ∈ firstBody.members.map (·.name))
    (inSecond : name ∈ secondBody.members.map (·.name)) : first = second := by
  have apart {one other : TypeId} {body otherBody : StructDefinition} (steps : ReflTransGen host.DerivesFrom one other)
      (defined : draft.Defines one (.struct body)) (otherDefined : draft.Defines other (.struct otherBody))
      (inOne : name ∈ body.members.map (·.name)) (inOther : name ∈ otherBody.members.map (·.name)) : one = other := by
    obtain ⟨holder, fields, isDefined⟩ := drafted.isDefined defined
    obtain ⟨bases, chain, _⟩ := isDefined.found drafted.built
    obtain rfl | ⟨base, isBase, further⟩ := ReflTransGen.cases_head steps
    · rfl
    · rw [DerivesFrom, base?_defined drafted.built defined chain] at isBase
      obtain ⟨found, present, isFound⟩ := reached_isBase drafted.built chain isBase further
      cases draft.defines_functional _ _ _ otherDefined isFound
      exact absurd inOther (isDefined.own_notInherited drafted.built chain inOne _ present)
  obtain steps | steps := ReflTransGen.total_of_right_unique (DerivesFrom.unique host) toFirst toSecond
  · exact apart steps firstDefined secondDefined inFirst inSecond
  · exact (apart steps secondDefined firstDefined inSecond inFirst).symm

/-- A struct that lends a property has an own member of its name. -/
theorem lends_own {id : TypeId} {name : String} (lends : (id, name) ∈ host.lentProperties) :
    ∃ body, draft.Defines id (.struct body) ∧ name ∈ body.members.map (·.name) := by
  obtain ⟨holder, fields, declared, isNamed⟩ := drafted.lends id name lends
  obtain ⟨other, body, isDefined⟩ := drafted.structs holder fields declared
  obtain rfl := Option.some.inj (isNamed.symm.trans isDefined.named)
  obtain ⟨property, present, _, rfl⟩ := (isDefined.lent name).mp lends
  exact ⟨body, isDefined.defined, property_mem_members isDefined.made (isDefined.own_distinct drafted.built) present⟩

end IsDrafted

/-- In a host the lookup of a member among the lent properties ends within as many steps as there are types, with what
the bounded one says: that the getter gives a reference which the struct offers that contributes the member. -/
theorem ofItems_looksUp {items : List Item} {host : Host} (read : ofItems items = .ok host) {owner : TypeId}
    {type : StructType} (isStruct : (host.schema.get? owner).bind (·.struct?) = some type) {member : Member}
    (present : member ∈ type.members) :
    (∃ steps ≤ host.schema.types.length,
      host.LooksUp member.name (some owner) steps (host.isLent owner member.name)) ∧
        ∃ holder id, host.Contributes owner member.toMemberSpec holder id ∧
          (host.isLent owner member.name = true ↔
            ∃ getter, IsGetterOf items holder member.name getter ∧ getter.GivesReference) := by
  obtain ⟨draft, drafted⟩ := ofItems_isDrafted read
  obtain ⟨body, bases, defined, chain, rfl⟩ := drafted.struct isStruct
  have whole := BaseDefinitions.cons owner body bases defined chain
  have shorter := SchemaDraft.build_bases_length drafted.built defined chain
  obtain ⟨steps, bounded, looksUp⟩ : ∃ steps ≤ (body :: bases).length,
      host.LooksUp member.name (some owner) steps (host.isLent owner member.name) :=
    baseChain_looksUp drafted.built member.name whole (Nat.succ_le_succ (Nat.le_of_lt shorter))
  refine ⟨⟨steps, Nat.le_trans bounded shorter, looksUp⟩, ?_⟩
  -- The member is one of the definition of a struct along the chain.
  obtain ⟨found, isFound, declares⟩ : ∃ found ∈ body :: bases, member.toMemberSpec ∈ found.members := by
    have isSpec := List.mem_map_of_mem (f := (·.toMemberSpec)) present
    rw [SchemaDraft.layOut_flattened] at isSpec
    obtain ⟨found, isFound, declares⟩ := List.mem_flatMap.mp isSpec
    exact ⟨found, List.mem_reverse.mp isFound, declares⟩
  obtain ⟨_, id, isStart, inChain, foundAt⟩ := isBase_reached drafted.built whole found isFound
  cases isStart
  obtain ⟨holder, fields, isDefined⟩ := drafted.isDefined foundAt
  obtain ⟨holderType, holds, own, _⟩ := isDefined.holds drafted.built
  have isOwn : member.name ∈ found.members.map (·.name) := List.mem_map_of_mem declares
  refine ⟨holder, id, ⟨inChain, ⟨holderType, holds, own ▸ declares⟩, ?only⟩, ?lends⟩
  case only =>
    intro other name otherType reached otherHolds otherOwn
    obtain ⟨otherBody, otherBases, otherDefined, _, rfl⟩ := drafted.struct otherHolds.found
    rw [StructType.ownSpecs, SchemaDraft.layOut_ownSpecs] at otherOwn
    exact drafted.own_unique reached inChain otherDefined foundAt otherOwn isOwn
  case lends =>
    rw [looksUp.answers, ← accessorsOf_lends, ← isDefined.lent]
    constructor
    · rintro ⟨_, other, isStart, reached, lends⟩
      cases isStart
      obtain ⟨otherBody, otherDefined, otherOwn⟩ := drafted.lends_own lends
      exact drafted.own_unique reached inChain otherDefined foundAt otherOwn isOwn ▸ lends
    · exact fun lends => ⟨owner, id, rfl, inChain, lends⟩

/-- The items of a source text make a host, in which a struct inherits a property and gets it lent, or not. -/
structure InheritsProperty (text owner name : String) (lent : Bool) (file : SourceFile) (host : Host) (id : TypeId)
    (type : StructType) (member : Member) : Prop where
  parsed : SourceFile.ofText text = .ok file
  read : ofItems (file.items.map (·.item)) = .ok host
  holds : host.HoldsStruct owner id type
  present : member ∈ type.members
  named : member.name = name
  kind : member.kind = .property
  inherited : member.inherited = true
  isLent : host.isLent id name = lent

def inheritsProperty (text owner name : String) (lent : Bool) : Bool :=
  passes (fun file => passes (fun host => (host.names owner).any fun id =>
    ((host.schema.get? id).bind (·.struct?)).any fun type => type.members.any fun member =>
      decide (member.name = name ∧ member.kind = .property ∧ member.inherited = true ∧ host.isLent id name = lent))
        (ofItems (file.items.map (·.item)))) (SourceFile.ofText text)

theorem inheritsProperty_exists {text owner name : String} {lent : Bool}
    (found : inheritsProperty text owner name lent = true) :
    ∃ file host id type member, InheritsProperty text owner name lent file host id type member := by
  obtain ⟨file, parsed, found⟩ := passes_iff.mp found
  obtain ⟨host, read, found⟩ := passes_iff.mp found
  obtain ⟨id, named, found⟩ := (Option.any_eq_true _ _).mp found
  obtain ⟨type, isStruct, found⟩ := (Option.any_eq_true _ _).mp found
  obtain ⟨member, present, found⟩ := List.any_eq_true.mp found
  obtain ⟨isNamed, kind, inherited, isLent⟩ := of_decide_eq_true found
  exact ⟨file, host, id, type, member, parsed, read, ⟨named, isStruct⟩, present, isNamed, kind, inherited, isLent⟩

/-- An employee is a person, who has a name behind a getter and a label that a getter and a public field share. -/
def employeeText : String :=
  "struct Person \x7b pub label: String, name: String \x7d " ++
    "impl Person \x7b pub fn label(&self) -> &str \x7b\x7d pub fn name(&self) -> &str \x7b\x7d \x7d " ++
    "struct Employee \x7b person: Person \x7d " ++
    "impl Deref for Employee \x7b type Target = Person; fn deref(&self) -> &Person \x7b\x7d \x7d " ++
    "impl Employee \x7b pub fn grade(&self) -> u8 \x7b\x7d \x7d"

/-- The name of an employee is lent by the getter of the person. -/
theorem ofItems_looksUp_employee : ∃ file host id type member,
    InheritsProperty employeeText "Employee" "name" true file host id type member ∧
      (∃ steps ≤ host.schema.types.length, host.LooksUp member.name (some id) steps (host.isLent id member.name)) ∧
        ∃ holder base, host.Contributes id member.toMemberSpec holder base ∧
          (host.isLent id member.name = true ↔
            ∃ getter, IsGetterOf (file.items.map (·.item)) holder member.name getter ∧ getter.GivesReference) := by
  have found : inheritsProperty employeeText "Employee" "name" true = true := by
    have chars : CharsOf employeeText _ := .append (.append (.append (.append (.literal _) _) _) _) _
    rw [inheritsProperty, SourceFile.ofText_chars chars]
    decide +kernel
  obtain ⟨file, host, id, type, member, inherits⟩ := inheritsProperty_exists found
  exact ⟨file, host, id, type, member, inherits, ofItems_looksUp inherits.read inherits.holds.found inherits.present⟩

end Host

end ObjectMapping
